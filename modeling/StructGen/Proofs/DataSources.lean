import Mathlib.Tactic.Simproc.ExistsAndEq
import Mathlib.Tactic.Tauto
import StructGen.Database
import StructGen.Proofs.Identifiers
import StructGen.Proofs.Separators
import StructGen.Proofs.Shown
import StructGen.Proofs.StructTags
/-!
# What a data source name tells

The data source name of a server is made of the settings, each behind a mark, and nothing in a
setting is escaped. `sent_determined`: two settings with one data source name are the same, or one
holds the mark behind a value and the other the mark before a value; and a data source name stands
for one setting of each kind if and only if no value holds the mark behind it or before it. Settings
have no data source name only if it shows a port that cannot be written.
-/
namespace StructGen

open Number

/-! ## Settings and their marks -/

/-- The adapters whose data source names hold more than one setting. -/
inductive Server
  | mysql
  | postgres
deriving DecidableEq, Repr

/-- The settings a data source name is made from, as they count: defaults stand for what is not
set. -/
structure SentSettings where
  host : String
  user : String
  password : String
  database : String
  port : Option Int
  encoding : Option String
deriving DecidableEq, Repr

/-- The data source name of the settings, if their adapter has a driver. -/
def DatabaseSettings.dsn? (s : DatabaseSettings) : Except DigitFault (Option String) :=
  s.connection?.map fun connection => connection.map Connection.dsn

/-- The mark between a host and a database. -/
def portMark (n : Int) : String :=
  ":" ++ toString n ++ ")/"

/-- The kind of the parts behind a port. -/
def PartKind.port : PartKind :=
  ⟨fun m => ∃ n : Int, (n ≠ 0 ∧ isShort n = true) ∧ m = portMark n, false⟩

/-- A text holds a word. -/
def Holds (word s : String) : Prop :=
  ∃ x y, s = x ++ word ++ y

/-- A text holds a word, and something before it. -/
def HoldsLate (word s : String) : Prop :=
  ∃ x y, s = x ++ word ++ y ∧ x ≠ ""

/-- A text holds a word, and something behind it. -/
def HoldsEarly (word s : String) : Prop :=
  ∃ x y, s = x ++ word ++ y ∧ y ≠ ""

theorem Holds.isInfix {word s : String} (h : Holds word s) : word.toList <:+: s.toList := by
  obtain ⟨x, y, rfl⟩ := h
  rw [String.toList_append, String.toList_append]
  exact List.infix_append _ _ _

theorem HoldsLate.holds {word s : String} (h : HoldsLate word s) : Holds word s := by
  obtain ⟨x, y, hs, -⟩ := h
  exact ⟨x, y, hs⟩

namespace Server

/-- The name of the adapter. -/
def adapter : Server → String
  | mysql => "mysql2"
  | postgres => "postgresql"

/-- The settings that a server is sent. -/
def sent (a : Server) (s : DatabaseSettings) : SentSettings where
  host := s.effectiveHost
  user := s.effectiveUser
  password := s.effectivePassword
  database := s.database
  port := match a with
    | mysql => some s.effectivePort
    | postgres => none
  encoding := match a with
    | mysql => some s.effectiveEncoding
    | postgres => none

/-- The port can be written, where one is sent. -/
def PortIsShort : Server → DatabaseSettings → Prop
  | mysql, s => isShort s.effectivePort = true
  | postgres, _ => True

/-- A value holds the mark behind it. -/
def HoldsNextMark : Server → DatabaseSettings → Prop
  | mysql, s => Holds ":" s.effectiveUser ∨ Holds "@tcp(" s.effectivePassword ∨
      (∃ n : Int, (n ≠ 0 ∧ isShort n = true) ∧ HoldsLate (portMark n) s.effectiveHost) ∨
      Holds "?charset=" s.database
  | postgres, s => HoldsLate " user=" s.effectiveHost ∨ Holds " dbname=" s.effectiveUser ∨
      Holds " sslmode=disable password=" s.database

/-- A value holds the mark before it. -/
def HoldsOwnMark : Server → DatabaseSettings → Prop
  | mysql, s => Holds ":" s.effectivePassword ∨ HoldsEarly "@tcp(" s.effectiveHost ∨
      (∃ n : Int, (n ≠ 0 ∧ isShort n = true) ∧ Holds (portMark n) s.database) ∨
      HoldsEarly "?charset=" s.effectiveEncoding
  | postgres, s => Holds " user=" s.effectiveUser ∨ Holds " dbname=" s.database ∨
      Holds " sslmode=disable password=" s.effectivePassword

/-- The kinds of parts that make a data source name. -/
def kinds : Server → List PartKind
  | mysql => [.word "", .word ":", .word "@tcp(" true, .port, .word "?charset=" true]
  | postgres =>
    [.word "host=" true, .word " user=", .word " dbname=", .word " sslmode=disable password="]

/-- The parts that make a data source name. -/
def parts : Server → DatabaseSettings → List Part
  | mysql, s => [⟨"", s.effectiveUser⟩, ⟨":", s.effectivePassword⟩, ⟨"@tcp(", s.effectiveHost⟩,
      ⟨portMark s.effectivePort, s.database⟩, ⟨"?charset=", s.effectiveEncoding⟩]
  | postgres, s => [⟨"host=", s.effectiveHost⟩, ⟨" user=", s.effectiveUser⟩,
      ⟨" dbname=", s.database⟩, ⟨" sslmode=disable password=", s.effectivePassword⟩]

/-- What a data source name ends with. -/
def ending : Server → String
  | mysql => "&parseTime=True&loc=Local"
  | postgres => ""

end Server

/-! ## Ports -/

theorem portMark_toList (n : Int) :
    (portMark n).toList = ':' :: ((toString n).toList ++ [')', '/']) := by
  simp [portMark, String.toList_append]

theorem not_mem_toString_int (n : Int) : ':' ∉ (toString n).toList ∧ ')' ∉ (toString n).toList := by
  constructor <;>
    · intro hmem
      exact absurd (mem_toString_int hmem) (by decide)

/-- Marks with a port that begin the same text are the same. -/
theorem portMark_inj {m n : Int} {s t : String} (h : portMark m ++ s = portMark n ++ t) :
    m = n := by
  have hfront : ∀ n : Int, ∀ c ∈ (toString n).toList, (c != ')') = true := by
    intro n c hc
    exact bne_iff_ne.2 fun heq => (not_mem_toString_int n).2 (heq ▸ hc)
  have hread : ∀ (n : Int) (s : String),
      ((portMark n ++ s).toList.tail.takeWhile (· != ')')) = (toString n).toList := by
    intro n s
    rw [String.toList_append, portMark_toList, List.cons_append, List.tail_cons, List.append_assoc,
      List.cons_append, Text.takeWhile_stop (hfront n) (by decide)]
  have htext : (toString m).toList = (toString n).toList := by
    rw [← hread m s, h, hread]
  rw [String.toList_inj, Int.toString_eq_repr, Int.toString_eq_repr] at htext
  exact Int.repr_injective htext

theorem PartKind.standApart_port : PartKind.port.StandApart where
  ne_empty := by
    rintro s ⟨n, -, rfl⟩ hempty
    have hlist := congrArg String.toList hempty
    rw [portMark_toList] at hlist
    cases hlist
  apart := by
    rintro s t between after rest ⟨m, hm, rfl⟩ ⟨n, -, rfl⟩ h
    by_cases hempty : between = ""
    · rw [hempty, String.empty_append] at h
      exact .inl ⟨hempty, by rw [portMark_inj h]⟩
    rw [String.append_assoc] at h
    rcases append_cases h with ⟨z, hbetween, -⟩ | ⟨z, hmark, htext⟩
    · exact .inr ⟨z, hbetween⟩
    by_cases hz : z = ""
    · exact .inr ⟨"", by rw [hmark, hz, String.append_empty, String.append_empty]⟩
    -- A colon would stand behind the first character of a mark.
    obtain ⟨c, cs, hcs⟩ := List.exists_cons_of_ne_nil (l := between.toList) (by simpa using hempty)
    obtain ⟨d, ds, hds⟩ := List.exists_cons_of_ne_nil (l := z.toList) (by simpa using hz)
    have hcolon : d = ':' := by
      have hlist := congrArg String.toList htext
      rw [String.toList_append, portMark_toList, String.toList_append, hds] at hlist
      exact (List.cons.inj hlist).1.symm
    have htail : (toString m).toList ++ [')', '/'] = cs ++ d :: ds := by
      have hlist := congrArg String.toList hmark
      rw [portMark_toList, String.toList_append, hcs, hds] at hlist
      exact (List.cons.inj hlist).2
    have hmem : ':' ∈ (toString m).toList ++ [')', '/'] := by
      rw [htail, hcolon]
      exact List.mem_append_right _ List.mem_cons_self
    rw [List.mem_append] at hmem
    exact absurd hmem (not_or.2 ⟨(not_mem_toString_int m).1, by decide⟩)

@[simp]
theorem PartKind.isMark_port {m : String} :
    port.IsMark m ↔ ∃ n : Int, (n ≠ 0 ∧ isShort n = true) ∧ m = portMark n :=
  .rfl

@[simp]
theorem PartKind.admits_port (value : String) : port.Admits value :=
  nofun

/-! ## Data source names -/

theorem textOr_some (s : String) : textOr (some s) "" = s := by
  unfold textOr
  split <;> simp_all

theorem textOr_some_of_ne {s fallback : String} (h : s ≠ "") : textOr (some s) fallback = s :=
  if_neg h

theorem textOr_ne_empty (s : Option String) {fallback : String} (h : fallback ≠ "") :
    textOr s fallback ≠ "" := by
  unfold textOr
  split
  · split <;> assumption
  · exact h

theorem DatabaseSettings.effectivePort_ne_zero (s : DatabaseSettings) : s.effectivePort ≠ 0 := by
  unfold effectivePort
  split
  · split <;> first | assumption | decide
  · decide

namespace Server

variable {a : Server} {s t : DatabaseSettings}

theorem dsn_eq (h : s.adapter = a.adapter) (hport : a.PortIsShort s) :
    s.dsn? = .ok (some (textOf (a.parts s) ++ a.ending)) := by
  cases a with
  | mysql =>
    have hshown : showInt s.effectivePort = .ok (toString s.effectivePort) :=
      showInt_eq_ok.2 ⟨hport, rfl⟩
    simp [DatabaseSettings.dsn?, DatabaseSettings.connection?, h, adapter, parts, ending, textOf,
      DatabaseSettings.mysqlDsn, hshown, Except.map, bind, Except.bind, pure, Except.pure, portMark,
      String.append_assoc]
  | postgres =>
    simp [DatabaseSettings.dsn?, DatabaseSettings.connection?, h, adapter, parts, ending, textOf,
      DatabaseSettings.postgresDsn, Except.map, String.append_assoc]

theorem dsn_eq_error (h : s.adapter = a.adapter) (hport : ¬a.PortIsShort s) :
    s.dsn? = .error .tooManyDigits := by
  cases a with
  | mysql =>
    have hshown : showInt s.effectivePort = .error .tooManyDigits := if_neg hport
    simp [DatabaseSettings.dsn?, DatabaseSettings.connection?, h, adapter,
      DatabaseSettings.mysqlDsn, hshown, Except.map, bind, Except.bind]
  | postgres => exact absurd trivial hport

/-- Settings have a data source name if and only if their port can be written. -/
theorem exists_dsn (h : s.adapter = a.adapter) :
    (∃ dsn, s.dsn? = .ok (some dsn)) ↔ a.PortIsShort s := by
  refine ⟨?_, fun hport => ⟨_, dsn_eq h hport⟩⟩
  rintro ⟨dsn, hdsn⟩
  by_contra hport
  rw [dsn_eq_error h hport] at hdsn
  cases hdsn

theorem parts_fit (hport : a.PortIsShort s) : List.Forall₂ PartKind.Fits a.kinds (a.parts s) := by
  have hhost : s.effectiveHost ≠ "" := textOr_ne_empty _ (by decide)
  have hencoding : s.effectiveEncoding ≠ "" := textOr_ne_empty _ (by decide)
  cases a with
  | mysql =>
    have hmark : PartKind.port.IsMark (portMark s.effectivePort) :=
      ⟨_, ⟨s.effectivePort_ne_zero, hport⟩, rfl⟩
    simp [kinds, parts, hhost, hencoding, hmark, -PartKind.isMark_port]
  | postgres => simp [kinds, parts, hhost]

theorem parts_eq_iff : a.parts s = a.parts t ↔ a.sent s = a.sent t := by
  have hport : portMark s.effectivePort = portMark t.effectivePort ↔
      s.effectivePort = t.effectivePort :=
    ⟨fun h => portMark_inj (s := "") (t := "") (by rw [h]), fun h => by rw [h]⟩
  cases a <;> simp [parts, sent, hport] <;> tauto

/-- Parts of the right kinds are those of settings. -/
theorem exists_settings {p : List Part} (h : List.Forall₂ PartKind.Fits a.kinds p) :
    ∃ s : DatabaseSettings, s.adapter = a.adapter ∧ a.PortIsShort s ∧ a.parts s = p := by
  cases a with
  | mysql =>
    simp only [kinds, List.forall₂_cons_left_iff, List.forall₂_nil_left_iff] at h
    obtain ⟨⟨_, user⟩, _, ⟨rfl, -⟩, ⟨⟨_, password⟩, _, ⟨rfl, -⟩, ⟨⟨_, host⟩, _, ⟨rfl, hhost⟩,
      ⟨⟨_, database⟩, _, ⟨⟨n, ⟨hn, hshort⟩, rfl⟩, -⟩, ⟨⟨_, encoding⟩, _, ⟨rfl, hencoding⟩, rfl, rfl⟩,
      rfl⟩, rfl⟩, rfl⟩, rfl⟩ := h
    refine ⟨{
      adapter := "mysql2", database, host := some host, port := some n, username := some user
      password := some password, encoding := some encoding }, rfl, ?_, ?_⟩
    · simpa [PortIsShort, DatabaseSettings.effectivePort, hn] using hshort
    simp [parts, DatabaseSettings.effectiveUser, DatabaseSettings.effectivePassword,
      DatabaseSettings.effectiveHost, DatabaseSettings.effectivePort,
      DatabaseSettings.effectiveEncoding, textOr_some, textOr_some_of_ne (hhost rfl),
      textOr_some_of_ne (hencoding rfl), hn]
  | postgres =>
    simp only [kinds, List.forall₂_cons_left_iff, List.forall₂_nil_left_iff] at h
    obtain ⟨⟨_, host⟩, _, ⟨rfl, hhost⟩, ⟨⟨_, user⟩, _, ⟨rfl, -⟩, ⟨⟨_, database⟩, _, ⟨rfl, -⟩,
      ⟨⟨_, password⟩, _, ⟨rfl, -⟩, rfl, rfl⟩, rfl⟩, rfl⟩, rfl⟩ := h
    refine ⟨{
      adapter := "postgresql", database, host := some host, username := some user
      password := some password }, rfl, trivial, ?_⟩
    simp [parts, DatabaseSettings.effectiveUser, DatabaseSettings.effectivePassword,
      DatabaseSettings.effectiveHost, textOr_some, textOr_some_of_ne (hhost rfl)]

theorem holdsNext_parts : HoldsNext a.kinds (a.parts s) ↔ a.HoldsNextMark s := by
  cases a with
  | postgres =>
    simp [kinds, parts, holdsNext_cons_cons, not_holdsNext_singleton, HoldsNextMark, Holds,
      HoldsLate]
  | mysql =>
    simp only [kinds, parts, holdsNext_cons_cons, PartKind.isMark_word, PartKind.admits_word,
      Bool.false_eq_true, ne_eq, IsEmpty.forall_iff, and_true, exists_and_right, exists_eq_right,
      PartKind.isMark_port, forall_const, PartKind.admits_port, not_holdsNext_singleton, or_false,
      HoldsNextMark, Holds, HoldsLate]
    -- The host is what is left: the port of the mark is found before or after the mark itself.
    refine or_congr_right (or_congr_right (or_congr_left ?_))
    constructor
    · rintro ⟨x, _, ⟨y, hvalue⟩, ⟨n, hn, rfl⟩, hx⟩
      exact ⟨n, hn, x, ⟨y, hvalue⟩, hx⟩
    · rintro ⟨n, hn, x, ⟨y, hvalue⟩, hx⟩
      exact ⟨x, _, ⟨y, hvalue⟩, ⟨n, hn, rfl⟩, hx⟩

theorem holdsOwn_parts : HoldsOwn a.kinds.tail (a.parts s).tail ↔ a.HoldsOwnMark s := by
  cases a with
  | postgres => simp [kinds, parts, holdsOwn_cons, not_holdsOwn_nil, HoldsOwnMark, Holds]
  | mysql =>
    simp only [kinds, List.tail_cons, parts, holdsOwn_cons, PartKind.isMark_word,
      PartKind.admits_word, Bool.false_eq_true, ne_eq, IsEmpty.forall_iff, and_true,
      exists_and_right, exists_eq_right, forall_const, ↓existsAndEq, true_and,
      PartKind.isMark_port, PartKind.admits_port, not_holdsOwn_nil, or_false, HoldsOwnMark, Holds,
      HoldsEarly]
    refine or_congr_right (or_congr_right (or_congr_left ?_))
    constructor
    · rintro ⟨x, n, ⟨y, hvalue⟩, hn⟩
      exact ⟨n, hn, x, y, hvalue⟩
    · rintro ⟨n, hn, x, y, hvalue⟩
      exact ⟨x, n, ⟨y, hvalue⟩, hn⟩

theorem standApart (a : Server) : ∀ k ∈ a.kinds.tail, k.StandApart := by
  cases a with
  | mysql =>
    simp only [kinds, List.tail_cons, List.forall_mem_cons]
    exact ⟨PartKind.standApart_word _ (by decide) (by decide),
      PartKind.standApart_word _ (by decide) (by decide), PartKind.standApart_port,
      PartKind.standApart_word _ (by decide) (by decide), List.forall_mem_nil _⟩
  | postgres =>
    simp only [kinds, List.tail_cons, List.forall_mem_cons]
    exact ⟨PartKind.standApart_word _ (by decide) (by decide),
      PartKind.standApart_word _ (by decide) (by decide),
      PartKind.standApart_word _ (by decide) (by decide), List.forall_mem_nil _⟩

theorem exists_kinds (a : Server) :
    ∃ w required kinds, a.kinds = .word w required :: kinds ∧ ∀ k ∈ kinds, k.StandApart := by
  have hapart := a.standApart
  cases a <;> exact ⟨_, _, _, rfl, hapart⟩

/-- Settings with one data source name are the same, or a value of one holds the mark behind it and
a value of the other the mark before it. -/
theorem sent_eq_or {dsn : String} (hs : s.adapter = a.adapter) (ht : t.adapter = a.adapter)
    (hdsn : s.dsn? = .ok (some dsn)) (hdsn' : t.dsn? = .ok (some dsn)) :
    a.sent t = a.sent s ∨ a.HoldsNextMark s ∧ a.HoldsOwnMark t ∨
      a.HoldsNextMark t ∧ a.HoldsOwnMark s := by
  have hport := (exists_dsn hs).1 ⟨dsn, hdsn⟩
  have hport' := (exists_dsn ht).1 ⟨dsn, hdsn'⟩
  have htext : textOf (a.parts t) = textOf (a.parts s) := by
    have hsame := hdsn'.trans hdsn.symm
    rw [dsn_eq hs hport, dsn_eq ht hport', Except.ok.injEq, Option.some_inj,
      String.append_left_inj] at hsame
    exact hsame
  have hs' := parts_fit hport
  have ht' := parts_fit hport'
  rw [← parts_eq_iff, ← holdsNext_parts, ← holdsNext_parts, ← holdsOwn_parts, ← holdsOwn_parts]
  obtain ⟨w, required, kinds, hkinds, hapart⟩ := a.exists_kinds
  rw [hkinds] at hs' ht' ⊢
  exact (readings_eq_or ht' hs' hapart htext).imp_right Or.symm

/-- If a value holds the mark behind it or before it, then other settings have the same data source
name. -/
theorem exists_other {dsn : String} (hs : s.adapter = a.adapter) (hdsn : s.dsn? = .ok (some dsn))
    (h : a.HoldsNextMark s ∨ a.HoldsOwnMark s) :
    ∃ t : DatabaseSettings, t.adapter = a.adapter ∧ t.dsn? = .ok (some dsn) ∧
      a.sent t ≠ a.sent s := by
  have hport := (exists_dsn hs).1 ⟨dsn, hdsn⟩
  have hs' := parts_fit hport
  rw [← holdsNext_parts, ← holdsOwn_parts] at h
  obtain ⟨q, hq, htext, hne⟩ : ∃ q, List.Forall₂ PartKind.Fits a.kinds q ∧
      textOf q = textOf (a.parts s) ∧ q ≠ a.parts s := by
    obtain ⟨w, required, kinds, hkinds, hapart⟩ := a.exists_kinds
    rw [hkinds] at hs' h ⊢
    exact exists_other_reading hs' hapart h
  obtain ⟨t, ht, hport', rfl⟩ := exists_settings hq
  refine ⟨t, ht, ?_, fun heq => hne (parts_eq_iff.2 heq)⟩
  rw [dsn_eq ht hport', htext, ← dsn_eq hs hport, hdsn]

end Server

/-- Settings of an adapter have a data source name if and only if their port can be written, where one
is sent. Other settings with that name are the same as these, or a value of one holds the mark behind
it and a value of the other the mark before it. There are no others if and only if no value of these
holds such a mark. -/
theorem sent_determined {a : Server} {s : DatabaseSettings} (hs : s.adapter = a.adapter) :
    ((∃ dsn, s.dsn? = .ok (some dsn)) ↔ a.PortIsShort s) ∧
    (¬a.PortIsShort s → s.dsn? = .error .tooManyDigits) ∧
    ∀ dsn, s.dsn? = .ok (some dsn) →
      (∀ t : DatabaseSettings, t.adapter = a.adapter → t.dsn? = .ok (some dsn) →
        a.sent t = a.sent s ∨ a.HoldsNextMark s ∧ a.HoldsOwnMark t ∨
          a.HoldsNextMark t ∧ a.HoldsOwnMark s) ∧
      ((∀ t : DatabaseSettings, t.adapter = a.adapter → t.dsn? = .ok (some dsn) →
          a.sent t = a.sent s) ↔
        ¬a.HoldsNextMark s ∧ ¬a.HoldsOwnMark s) := by
  refine ⟨Server.exists_dsn hs, Server.dsn_eq_error hs, fun dsn hdsn =>
    ⟨fun t ht => Server.sent_eq_or hs ht hdsn, fun h => ?_, fun h t ht hdsn' => ?_⟩⟩
  · rw [← not_or]
    intro hholds
    obtain ⟨t, ht, hdsn', hne⟩ := Server.exists_other hs hdsn hholds
    exact hne (h t ht hdsn')
  · rcases Server.sent_eq_or hs ht hdsn hdsn' with heq | ⟨hnext, -⟩ | ⟨-, hown⟩
    · exact heq
    · exact absurd hnext h.1
    · exact absurd hown h.2

/-- A password with white space, equals signs and the marks of other parts. -/
def spacedPassword : DatabaseSettings where
  adapter := "postgresql"
  database := "shop"
  password := some "p w user= dbname=:"

/-- Such a password is told from the other settings. -/
theorem spacedPassword_determined : spacedPassword.adapter = Server.postgres.adapter ∧
    spacedPassword.dsn? = .ok (some
      "host=localhost user= dbname=shop sslmode=disable password=p w user= dbname=:") ∧
    ∀ t : DatabaseSettings, t.adapter = "postgresql" → t.dsn? = spacedPassword.dsn? →
      Server.postgres.sent t = Server.postgres.sent spacedPassword := by
  have hnext : ¬Server.postgres.HoldsNextMark spacedPassword := by
    rintro (h | h | h)
    · exact absurd h.holds.isInfix (by decide)
    · exact absurd h.isInfix (by decide)
    · exact absurd h.isInfix (by decide)
  have hown : ¬Server.postgres.HoldsOwnMark spacedPassword := by
    rintro (h | h | h) <;> exact absurd h.isInfix (by decide)
  obtain ⟨-, -, hname⟩ := sent_determined (a := .postgres) (s := spacedPassword) rfl
  obtain ⟨-, honly⟩ := hname _ rfl
  exact ⟨rfl, rfl, honly.2 ⟨hnext, hown⟩⟩

/-- A user name with a colon. -/
def colonUser : DatabaseSettings where
  adapter := "mysql2"
  database := "shop"
  username := some "app:x"
  password := some "y"

/-- A password with a colon. -/
def colonPassword : DatabaseSettings where
  adapter := "mysql2"
  database := "shop"
  username := some "app"
  password := some "x:y"

/-- A user name with the mark before a database. -/
def markedUser : DatabaseSettings where
  adapter := "postgresql"
  database := "shop"
  username := some "app dbname=audit"

/-- A database with the mark before it. -/
def markedDatabase : DatabaseSettings where
  adapter := "postgresql"
  database := "audit dbname=shop"
  username := some "app"

/-- Settings that differ have one data source name, for both servers. -/
theorem dsn_shared :
    (colonUser.adapter = "mysql2" ∧ colonPassword.adapter = "mysql2" ∧
      colonUser.dsn? = colonPassword.dsn? ∧
      Server.mysql.sent colonUser ≠ Server.mysql.sent colonPassword) ∧
    markedUser.adapter = "postgresql" ∧ markedDatabase.adapter = "postgresql" ∧
      markedUser.dsn? = markedDatabase.dsn? ∧
      Server.postgres.sent markedUser ≠ Server.postgres.sent markedDatabase := by
  decide +kernel

end StructGen
