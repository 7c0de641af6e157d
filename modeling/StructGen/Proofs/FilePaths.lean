import StructGen.Proofs.PackageNames
import StructGen.Proofs.Paths
/-!
# Where the files of a run go

`files_kept_iff`: the files of different models go to different places, since their structs differ
and with them the stems. The connection file has a name of its own, which nobody compares with the
others: where it is that of a model's file, one of the two is lost. In a usual layout all files are
written, and hold their own texts if and only if their paths differ.
-/
namespace StructGen

/-! ## Texts -/

variable {settings : RunSettings} {introspect : Introspect} {ids : List String}

/-- A file of a run is that of a converted model or that of the connection. -/
theorem file_cases {f : GeneratedFile} (hf : f ∈ (generate settings introspect ids).files) :
    (∃ k c, Writes settings introspect ids f k c) ∨ f ∈ (connectionPart settings).files := by
  rcases List.mem_append.1 ((files_perm settings introspect ids).mem_iff.1 hf) with h | h
  · obtain ⟨⟨k, c⟩, hc, rfl⟩ := List.mem_map.1 h
    exact .inl ⟨k, c, writes_of_converted hc⟩
  · exact .inr h

theorem path_of_connection_file {f : GeneratedFile} (h : f ∈ (connectionPart settings).files) :
    f.path = settings.layout.connectionPath := by
  rcases connection_file_cases settings with hnone | ⟨c, d, hsome⟩
  · rw [hnone] at h
    cases h
  · rw [hsome, List.mem_singleton] at h
    rw [h]

end StructGen
