import StructGen.Proofs.StringLiterals
/-!
# Struct tags read back

`lookupTag` finds the value of a key in a struct tag as a running Go program does. It goes over the
tag entry by entry: spaces, a key up to a colon, and a value in double quotes, which is unquoted if
the key is the wanted one. `structTag_read`: from the literal of an emitted tag each of its keys
gives exactly its value, and no other key is found, whatever the values hold.
-/
namespace StructGen

namespace Tag

/-! ## Reading -/

/-- A character of a key: no space, control character, colon or quotation mark. -/
def isKeyChar (c : Char) : Bool :=
  0x20 < c.toNat && c != ':' && c != '"' && c != '\x7f'

/-- What stands up to the first quotation mark that no backslash precedes, with this mark, and what
follows it. A backslash and the character behind it are passed over together. -/
def scanQuoted : List Char → Option (List Char × List Char)
  | [] => none
  | '"' :: s => some (['"'], s)
  | '\\' :: c :: s => (scanQuoted s).map fun p => ('\\' :: c :: p.1, p.2)
  | ['\\'] => none
  | c :: s => (scanQuoted s).map fun p => (c :: p.1, p.2)

/-- The first entry of a tag: its key, its value in quotes, and what follows it. -/
def readEntry (tag : List Char) : Option (List Char × List Char × List Char) :=
  let entry := tag.dropWhile (· == ' ')
  match entry.takeWhile isKeyChar, entry.dropWhile isKeyChar with
  | c :: key, ':' :: '"' :: s => (scanQuoted s).map fun p => (c :: key, '"' :: p.1, p.2)
  | _, _ => none

theorem length_scanQuoted {s quoted rest : List Char} (h : scanQuoted s = some (quoted, rest)) :
    rest.length < s.length := by
  induction s using scanQuoted.induct generalizing quoted with
  | case1 => cases h
  | case2 s =>
    cases h
    exact Nat.lt_succ_self _
  | case3 c s ih =>
    rw [scanQuoted] at h
    obtain ⟨p, hp, heq⟩ := Option.map_eq_some_iff.1 h
    cases heq
    have := ih hp
    simp only [List.length_cons]
    omega
  | case4 => cases h
  | case5 c s hquote hback hlast ih =>
    rw [scanQuoted] at h
    · obtain ⟨p, hp, heq⟩ := Option.map_eq_some_iff.1 h
      cases heq
      exact Nat.lt_succ_of_lt (ih hp)
    all_goals assumption

theorem length_readEntry {tag key quoted rest : List Char}
    (h : readEntry tag = some (key, quoted, rest)) : rest.length < tag.length := by
  unfold readEntry at h
  simp only at h
  split at h
  · next s _ hs =>
    obtain ⟨p, hp, heq⟩ := Option.map_eq_some_iff.1 h
    cases heq
    have hscan := length_scanQuoted hp
    have hentry := ((List.dropWhile_suffix isKeyChar).trans
      (List.dropWhile_suffix (l := tag) (· == ' '))).length_le
    rw [hs] at hentry
    simp only [List.length_cons] at hentry
    omega
  · cases h

/-- The value of the first entry with a key; nothing if an entry before it cannot be read. -/
def lookup (key tag : List Char) : Option String :=
  match _h : readEntry tag with
  | none => none
  | some (name, quoted, rest) =>
    -- A value is unquoted only if its key is wanted, so a bad one elsewhere does no harm.
    if name = key then readLiteral (String.ofList quoted) else lookup key rest
termination_by tag.length
decreasing_by exact length_readEntry _h

end Tag

/-- The value of a key in a struct tag. -/
def lookupTag (key tag : String) : Option String :=
  Tag.lookup key.toList tag.toList

/-- A key of letters. -/
def IsTagKey (key : String) : Prop :=
  key ≠ "" ∧ ∀ c ∈ key.toList, c.isAlpha = true

instance (key : String) : Decidable (IsTagKey key) :=
  decidable_of_iff (key ≠ "" ∧ key.toList.all Char.isAlpha = true)
    (by rw [IsTagKey, List.all_eq_true])

/-! ## Quoted values -/

namespace Text

variable {α : Type} {p : α → Bool} {s rest : List α} {c : α}

theorem takeWhile_stop (hs : ∀ x ∈ s, p x = true) (hc : p c = false) :
    (s ++ c :: rest).takeWhile p = s := by
  rw [List.takeWhile_append_of_pos hs, List.takeWhile_cons_of_neg (by simp [hc]), List.append_nil]

theorem dropWhile_stop (hs : ∀ x ∈ s, p x = true) (hc : p c = false) :
    (s ++ c :: rest).dropWhile p = c :: rest := by
  rw [List.dropWhile_append_of_pos hs, List.dropWhile_cons_of_neg (by simp [hc])]

theorem escape_cons (c : Char) (s : List Char) : escape (c :: s) = escapeChar c ++ escape s :=
  List.flatMap_cons

theorem quote_toList (s : String) : (quote s).toList = '"' :: escape s.toList ++ ['"'] :=
  String.toList_ofList

/-- A character that stands for itself in a quoted text. -/
def IsPlain (c : Char) : Prop :=
  c ≠ '"' ∧ c ≠ '\\' ∧ 0x20 ≤ c.toNat

instance (c : Char) : Decidable (IsPlain c) :=
  inferInstanceAs (Decidable (_ ∧ _ ∧ _))

theorem isPlain_hexDigit : ∀ n < 16, IsPlain (hexDigit n) := by
  decide

/-- A character is written by a backslash, a letter or mark and plain characters, or it is plain. -/
theorem escapeChar_shape (c : Char) :
    (∃ d ds, escapeChar c = '\\' :: d :: ds ∧ 0x20 ≤ d.toNat ∧ ∀ e ∈ ds, IsPlain e) ∨
      escapeChar c = [c] ∧ IsPlain c := by
  have hmark : ∀ d, 0x20 ≤ d.toNat →
      ∃ d' ds, ['\\', d] = '\\' :: d' :: ds ∧ 0x20 ≤ d'.toNat ∧ ∀ e ∈ ds, IsPlain e :=
    fun d hd => ⟨d, [], rfl, hd, by simp⟩
  unfold escapeChar
  split
  · exact .inl (hmark '"' (by decide))
  split
  · exact .inl (hmark '\\' (by decide))
  split
  · exact .inl (hmark 'n' (by decide))
  split
  · exact .inl (hmark 'r' (by decide))
  split
  · exact .inl (hmark 't' (by decide))
  split
  · exact .inl (hmark 'b' (by decide))
  split
  · exact .inl (hmark 'f' (by decide))
  split
  · have hzero : IsPlain '0' := by decide
    have hhigh := isPlain_hexDigit (c.toNat / 16) (by omega)
    have hlow := isPlain_hexDigit (c.toNat % 16) (by omega)
    exact .inl ⟨'u', _, rfl, by decide, by simp [hzero, hhigh, hlow]⟩
  · next hquote hback _ _ _ _ _ hcontrol => exact .inr ⟨rfl, hquote, hback, by omega⟩

theorem not_mem_of_le {s : List Char} {c : Char} (h : ∀ d ∈ s, 0x20 ≤ d.toNat)
    (hc : c.toNat < 0x20) : c ∉ s :=
  fun hmem => absurd (h c hmem) (Nat.not_le.2 hc)

theorem le_of_mem_quote {s : String} {c : Char} (h : c ∈ (quote s).toList) : 0x20 ≤ c.toNat := by
  rw [quote_toList, List.mem_append, List.mem_cons, List.mem_singleton] at h
  rcases h with (rfl | h) | rfl
  · decide
  · obtain ⟨d, -, hd⟩ := List.mem_flatMap.1 h
    obtain ⟨e, es, heq, he, hes⟩ | ⟨heq, hplain⟩ := escapeChar_shape d
    · rw [heq, List.mem_cons, List.mem_cons] at hd
      rcases hd with rfl | rfl | hd
      · decide
      · exact he
      · exact (hes c hd).2.2
    · rw [heq, List.mem_singleton] at hd
      rw [hd]
      exact hplain.2.2
  · decide

end Text

namespace Tag

theorem scanQuoted_plain {c : Char} (hc : Text.IsPlain c) (t : List Char) :
    scanQuoted (c :: t) = (scanQuoted t).map fun p => (c :: p.1, p.2) := by
  rw [scanQuoted]
  · exact hc.1
  · intro d s hback
    exact absurd hback hc.2.1
  · intro hback
    exact absurd hback hc.2.1

theorem scanQuoted_plains {s : List Char} (hs : ∀ c ∈ s, Text.IsPlain c) (t : List Char) :
    scanQuoted (s ++ t) = (scanQuoted t).map fun p => (s ++ p.1, p.2) := by
  induction s with
  | nil => simp
  | cons c s ih =>
    rw [List.forall_mem_cons] at hs
    rw [List.cons_append, scanQuoted_plain hs.1, ih hs.2, Option.map_map]
    rfl

/-- A scan passes over what is written for a character. -/
theorem scanQuoted_escapeChar (c : Char) (t : List Char) :
    scanQuoted (Text.escapeChar c ++ t) =
      (scanQuoted t).map fun p => (Text.escapeChar c ++ p.1, p.2) := by
  obtain ⟨d, ds, heq, -, hds⟩ | ⟨heq, hplain⟩ := Text.escapeChar_shape c
  · rw [heq, List.cons_append, List.cons_append, scanQuoted, scanQuoted_plains hds, Option.map_map]
    rfl
  · rw [heq]
    exact scanQuoted_plain hplain t

/-- A scan of a quoted text ends at its closing quotation mark. -/
theorem scanQuoted_escape (s rest : List Char) :
    scanQuoted (Text.escape s ++ '"' :: rest) = some (Text.escape s ++ ['"'], rest) := by
  induction s with
  | nil => rfl
  | cons c s ih =>
    rw [Text.escape_cons, List.append_assoc, scanQuoted_escapeChar, ih, Option.map_some,
      List.append_assoc]

/-! ## Entries -/

/-- A key with its value in quotes. -/
def entry (p : String × String) : List Char :=
  p.1.toList ++ ':' :: (Text.quote p.2).toList

theorem isKeyChar_of_isAlpha {c : Char} (h : c.isAlpha = true) : isKeyChar c = true := by
  have hne : ∀ d : Char, d.isAlpha = false → c ≠ d := by
    rintro d hd rfl
    rw [h] at hd
    cases hd
  have hlt : 0x20 < c.toNat := by
    have hsmall : ∀ n < 0x21, (Char.ofNat n).isAlpha = false := by decide
    by_contra hle
    have hc := hsmall c.toNat (by omega)
    rw [Char.ofNat_toNat, h] at hc
    cases hc
  simp [isKeyChar, hlt, hne]

theorem readEntry_entry {p : String × String} (hkey : IsTagKey p.1) (rest : List Char) :
    readEntry (entry p ++ rest) = some (p.1.toList, (Text.quote p.2).toList, rest) := by
  have hchars : ∀ c ∈ p.1.toList, isKeyChar c = true := fun c hc => isKeyChar_of_isAlpha (hkey.2 c hc)
  obtain ⟨c, key, hcons⟩ := List.exists_cons_of_ne_nil fun h => hkey.1 (String.toList_eq_nil_iff.1 h)
  have hspace : c ≠ ' ' := by
    rintro rfl
    have hc := hchars ' ' (by simp [hcons])
    revert hc
    decide
  have hentry : (entry p ++ rest).dropWhile (· == ' ') =
      (c :: key) ++ ':' :: '"' :: (Text.escape p.2.toList ++ '"' :: rest) := by
    simp [entry, Text.quote_toList, hcons, hspace]
  have hcolon : isKeyChar ':' = false := by decide
  rw [hcons] at hchars
  unfold readEntry
  simp only [hentry, Text.takeWhile_stop hchars hcolon, Text.dropWhile_stop hchars hcolon,
    scanQuoted_escape]
  rw [hcons, Text.quote_toList]
  rfl

theorem readEntry_space (tag : List Char) : readEntry (' ' :: tag) = readEntry tag := rfl

theorem lookup_nil (key : List Char) : lookup key [] = none := by
  rw [lookup]
  rfl

theorem lookup_space (key tag : List Char) : lookup key (' ' :: tag) = lookup key tag := by
  rw [lookup, lookup, readEntry_space]

theorem lookup_entry {p : String × String} (hkey : IsTagKey p.1) (key : String) (rest : List Char) :
    lookup key.toList (entry p ++ rest) =
      if p.1 = key then some p.2 else lookup key.toList rest := by
  rw [lookup]
  split
  · next hnone =>
    rw [readEntry_entry hkey] at hnone
    cases hnone
  · next hsome =>
    rw [readEntry_entry hkey] at hsome
    cases hsome
    rw [String.ofList_toList, readLiteral_quote]
    simp only [String.toList_inj]

end Tag

/-! ## Whole tags -/

theorem structTag_cons (p : String × String) (pairs : List (String × String)) :
    (structTag (p :: pairs)).toList =
      Tag.entry p ++ if pairs = [] then [] else ' ' :: (structTag pairs).toList := by
  cases pairs with
  | nil => simp [structTag, Tag.entry]
  | cons q pairs => simp [structTag, Tag.entry, String.intercalate_cons_cons]

/-- In a tag a key has the value it was given first. -/
theorem lookupTag_structTag {pairs : List (String × String)} (hkeys : ∀ p ∈ pairs, IsTagKey p.1)
    (key : String) : lookupTag key (structTag pairs) = pairs.lookup key := by
  unfold lookupTag
  -- Both look-ups go over the entries in order, and an entry is read whole before the next.
  induction pairs with
  | nil => exact Tag.lookup_nil _
  | cons p pairs ih =>
    rw [List.forall_mem_cons] at hkeys
    have hrest : Tag.lookup key.toList (if pairs = [] then [] else ' ' :: (structTag pairs).toList) =
        pairs.lookup key := by
      split
      · next hnil =>
        rw [hnil]
        exact Tag.lookup_nil _
      · rw [Tag.lookup_space, ih hkeys.2]
    rw [structTag_cons, Tag.lookup_entry hkeys.1, hrest, List.lookup_cons, beq_eq_decide]
    by_cases hp : p.1 = key
    · simp [hp]
    · simp [hp, Ne.symm hp]

theorem le_of_mem_structTag {pairs : List (String × String)} (hkeys : ∀ p ∈ pairs, IsTagKey p.1)
    {c : Char} (h : c ∈ (structTag pairs).toList) : 0x20 ≤ c.toNat := by
  induction pairs with
  | nil => simp [structTag] at h
  | cons p pairs ih =>
    rw [List.forall_mem_cons] at hkeys
    rw [structTag_cons, List.mem_append, Tag.entry, List.mem_append, List.mem_cons] at h
    rcases h with (h | rfl | h) | h
    · have hc := Tag.isKeyChar_of_isAlpha (hkeys.1.2 c h)
      simp only [Tag.isKeyChar, Bool.and_eq_true, decide_eq_true_eq] at hc
      omega
    · decide
    · exact Text.le_of_mem_quote h
    · split at h
      · cases h
      · rcases List.mem_cons.1 h with rfl | h
        · decide
        · exact ih hkeys.2 h

theorem isTagKey_of_mem {settings json : String} :
    ∀ p ∈ [("gorm", settings), ("json", json)], IsTagKey p.1 := by
  have hgorm : IsTagKey "gorm" := by decide
  have hjson : IsTagKey "json" := by decide
  simp [hgorm, hjson]

/-- From its literal an emitted tag reads back, and in it each key has exactly its value; no other
key is found. -/
theorem structTag_read (pairs : List (String × String)) (hkeys : ∀ p ∈ pairs, IsTagKey p.1)
    (hdistinct : (pairs.map Prod.fst).Nodup) :
    ∃ tag, readLiteral (tagLiteral (structTag pairs)) = some tag ∧
      (∀ p ∈ pairs, lookupTag p.1 tag = some p.2) ∧
      ∀ key, key ∉ pairs.map Prod.fst → lookupTag key tag = none := by
  have hreturn : '\r' ∉ (structTag pairs).toList :=
    Text.not_mem_of_le (fun c hc => le_of_mem_structTag hkeys hc) (by decide)
  refine ⟨structTag pairs, readLiteral_tagLiteral hreturn, fun p hp => ?_, fun key hkey => ?_⟩
  · obtain ⟨before, after, rfl⟩ := List.append_of_mem hp
    rw [lookupTag_structTag hkeys, List.lookup_eq_some_iff]
    refine ⟨before, after, rfl, fun q hq => ?_⟩
    rw [List.map_append, List.map_cons, List.nodup_append] at hdistinct
    rw [bne_iff_ne]
    exact (hdistinct.2.2 q.1 (List.mem_map_of_mem hq) p.1 List.mem_cons_self).symm
  · rw [lookupTag_structTag hkeys, List.lookup_eq_none_iff]
    intro p hp
    rw [bne_iff_ne]
    rintro rfl
    exact hkey (List.mem_map_of_mem hp)

/-- A value with all that quoting has to care for, and one that ends in a backslash. -/
def hostilePairs : List (String × String) :=
  [("gorm", "\x60\x01\n\\\" json:\"id\" \u2028"), ("json", "name\\")]

theorem hostilePairs_read : (∀ p ∈ hostilePairs, IsTagKey p.1) ∧
    (hostilePairs.map Prod.fst).Nodup ∧
    ∃ tag, readLiteral (tagLiteral (structTag hostilePairs)) = some tag ∧
      (∀ p ∈ hostilePairs, lookupTag p.1 tag = some p.2) ∧
      ∀ key, key ∉ hostilePairs.map Prod.fst → lookupTag key tag = none :=
  ⟨by decide, by decide, structTag_read hostilePairs (by decide) (by decide)⟩

end StructGen
