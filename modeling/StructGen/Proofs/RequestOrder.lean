import StructGen.Proofs.Comparison
/-!
# The order of requests

`generate_perm`: if the requested schemas can be told apart by their names and by their struct
names, a run that takes the requests in another order writes the same files and reports the same.
The struct name of a schema is then its own in whatever order it is reached, so the arenas of both
runs hold the same schemas.
-/
namespace StructGen

variable {settings : RunSettings} {introspect : Introspect} {ids ids' : List String}

/-- A name of requested schemas belongs to one of them only, and so does a struct name. -/
structure ToldApart (introspect : Introspect) (ids : List String) : Prop where
  name : ∀ m ∈ schemas introspect ids, ∀ t ∈ schemas introspect ids, m.name = t.name → m = t
  struct : ∀ m ∈ schemas introspect ids, ∀ t ∈ schemas introspect ids,
    m.name ≠ t.name → goName m.name ≠ goName t.name

theorem ToldApart.holder_eq_some (h : ToldApart introspect ids) {struct : String} {m : Model} :
    holder? introspect ids struct = some m ↔
      m ∈ schemas introspect ids ∧ goName m.name = struct := by
  refine ⟨fun hm => ⟨List.mem_of_find?_eq_some hm, goName_of_holder hm⟩, ?_⟩
  rintro ⟨hm, rfl⟩
  obtain ⟨id, hid, hi⟩ := mem_schemas.1 hm
  -- Whoever holds the struct name of `m` has it too, so it can only be `m`.
  obtain ⟨t, ht⟩ := exists_holder hid hi
  have hname : t.name = m.name := by
    by_contra hne
    exact h.struct t (List.mem_of_find?_eq_some ht) m hm hne (goName_of_holder ht)
  rw [ht, h.name t (List.mem_of_find?_eq_some ht) m hm hname]

theorem mem_schemas_perm (hperm : ids.Perm ids') {m : Model} :
    m ∈ schemas introspect ids ↔ m ∈ schemas introspect ids' :=
  (hperm.filterMap _).mem_iff

theorem ToldApart.perm (h : ToldApart introspect ids) (hperm : ids.Perm ids') :
    ToldApart introspect ids' := by
  constructor
  · intro m hm t ht
    exact h.name m ((mem_schemas_perm hperm).2 hm) t ((mem_schemas_perm hperm).2 ht)
  · intro m hm t ht
    exact h.struct m ((mem_schemas_perm hperm).2 hm) t ((mem_schemas_perm hperm).2 ht)

theorem ToldApart.holder_perm (h : ToldApart introspect ids) (hperm : ids.Perm ids')
    (struct : String) : holder? introspect ids struct = holder? introspect ids' struct := by
  ext m
  rw [h.holder_eq_some, (h.perm hperm).holder_eq_some, mem_schemas_perm hperm]

theorem refusals_perm (hholder : ∀ s, holder? introspect ids s = holder? introspect ids' s)
    (hperm : ids.Perm ids') (n : String) :
    refusals introspect ids n = refusals introspect ids' n := by
  have hrefusal : refusal? introspect ids n = refusal? introspect ids' n :=
    refusal_congr fun m _ => by rw [hholder]
  unfold refusals
  rw [hrefusal, hperm.count_eq]

/-- Diagnostics that agree for every model are the same but for their order. -/
theorem perm_of_filter_model {ds ds' : List Diagnostic}
    (h : ∀ n, ds.filter (·.model = n) = ds'.filter (·.model = n)) : ds.Perm ds' := by
  rw [List.perm_iff_count]
  intro d
  -- `d` stands as often in a list as among what the list says of its model.
  have hcount := congrArg (List.count d) (h d.model)
  rwa [List.count_filter (by simp), List.count_filter (by simp)] at hcount

/-- The order of requests changes neither the files nor what is reported. -/
theorem generate_perm (settings : RunSettings) (h : ToldApart introspect ids)
    (hperm : ids.Perm ids') :
    (generate settings introspect ids).files.Perm (generate settings introspect ids').files ∧
      (generate settings introspect ids).diagnostics.Perm
        (generate settings introspect ids').diagnostics := by
  have hholder := h.holder_perm hperm
  have harena : ∀ n m, (n, m) ∈ arenaOf introspect ids ↔ (n, m) ∈ arenaOf introspect ids' := by
    intro n m
    rw [mem_arenaOf, mem_arenaOf, hholder]
  have hfailure : ∀ m : Model,
      m.failure? (namesOf introspect ids) = m.failure? (namesOf introspect ids') := by
    intro m
    apply m.failure_congr
    intro n
    rw [mem_namesOf, mem_namesOf, hholder]
  have hconverted : ∀ e, e ∈ convertedModels introspect ids ↔ e ∈ convertedModels introspect ids' :=
    fun ⟨n, m⟩ => mem_convertedModels_congr (harena n) (fun t _ => hfailure t) m
  refine ⟨files_congr settings hconverted, perm_of_filter_model fun n => ?_⟩
  exact report_congr settings (refusals_perm hholder hperm n)
    (faults_congr (harena n) fun t _ => hfailure t) (conversions_congr hconverted n)

theorem orders_in_reverse :
    ToldApart (ordersOf "note") ["Order", "Customer", "Guest", "Order"] ∧
      ["Order", "Customer", "Guest", "Order"].Perm ["Order", "Guest", "Customer", "Order"] ∧
      (generate usualSettings (ordersOf "note") ["Order", "Customer", "Guest", "Order"]).files.Perm
        (generate usualSettings (ordersOf "note") ["Order", "Guest", "Customer", "Order"]).files ∧
      (generate usualSettings (ordersOf "note")
          ["Order", "Customer", "Guest", "Order"]).diagnostics.Perm
        (generate usualSettings (ordersOf "note")
          ["Order", "Guest", "Customer", "Order"]).diagnostics := by
  have hapart : ToldApart (ordersOf "note") ["Order", "Customer", "Guest", "Order"] := by
    constructor
    · simp [schemas, ordersOf, Except.toOption, keylessTable]
    · have hstruct : goName "Order" ≠ goName "Customer" := by decide +kernel
      simp [schemas, ordersOf, Except.toOption, keylessTable, hstruct, hstruct.symm]
  have hperm : ["Order", "Customer", "Guest", "Order"].Perm
      ["Order", "Guest", "Customer", "Order"] := by decide
  exact ⟨hapart, hperm, generate_perm usualSettings hapart hperm⟩

end StructGen
