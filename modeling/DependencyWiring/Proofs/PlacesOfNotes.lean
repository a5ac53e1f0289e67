import DependencyWiring.Proofs.ChartedReading
import DependencyWiring.Proofs.CleanReport

/-!
# Places of notes

A reader is given the path of what it reads. All that it notes is about this path or about one that
leads on from it, so that notes on one declaration are told from notes on another by their paths.
-/
namespace DependencyWiring

/-! ## Paths below a path -/

namespace LogicalPath

/-- The path is the other one, or leads on from it by a key. -/
def IsWithin (path parent : String) : Prop :=
  path = parent ∨ ∃ rest, path = parent ++ "." ++ rest

theorem IsWithin.refl (path : String) : IsWithin path path :=
  .inl rfl

theorem IsWithin.trans {a b c : String} (hab : IsWithin a b) (hbc : IsWithin b c) :
    IsWithin a c := by
  rcases hab with rfl | ⟨rest, rfl⟩
  · exact hbc
  · rcases hbc with rfl | ⟨rest', rfl⟩
    · exact .inr ⟨rest, rfl⟩
    · exact .inr ⟨rest' ++ "." ++ rest, by simp only [String.append_assoc]⟩

/-- The keys of the root are written without it, so only other paths are led on by their keys. -/
theorem key_isWithin {parent : String} (h : parent ≠ root) (name : String) :
    IsWithin (key parent name) parent :=
  .inr ⟨name, if_neg h⟩

theorem item_isWithin {parent : String} (h : parent ≠ root) (name : String) (index : Nat) :
    IsWithin (item parent name index) parent :=
  .inr ⟨name ++ "[" ++ toString index ++ "]", by simp only [item, key, h, if_false,
    String.append_assoc]⟩

end LogicalPath

/-- The place is in the source, at the path or below it. -/
structure Origin.IsWithin (o : Origin) (source path : String) : Prop where
  source : o.source = source
  path : LogicalPath.IsWithin o.path path

theorem Origin.IsWithin.trans {o : Origin} {source path parent : String}
    (h : o.IsWithin source path) (hpath : LogicalPath.IsWithin path parent) :
    o.IsWithin source parent :=
  ⟨h.source, h.path.trans hpath⟩

/-- The diagnostic is about the location or about a place below it. -/
def Diagnostic.IsWithin (d : Diagnostic) (location : String) : Prop :=
  d.location = location ∨ ∃ rest, d.location = location ++ "." ++ rest

/-- Some diagnostic on the location or on a place below it is an error. -/
def Diagnostic.HasErrorWithin (ds : List Diagnostic) (location : String) : Prop :=
  ∃ d ∈ ds, d.isError = true ∧ d.IsWithin location

theorem Diagnostic.isWithin_of_origin {n : Note} {source path : String}
    (h : n.origin.IsWithin source path) : n.diagnostic.IsWithin (source ++ "#" ++ path) := by
  have hlocation : n.diagnostic.location = source ++ "#" ++ n.origin.path :=
    congrArg (· ++ "#" ++ n.origin.path) h.source
  rcases h.path with hpath | ⟨rest, hpath⟩
  · exact .inl (hlocation.trans (by rw [hpath]))
  · exact .inr ⟨rest, hlocation.trans (by rw [hpath]; simp only [String.append_assoc])⟩

namespace Note

/-- Some note on the path or on a place below it is an error. -/
def HasErrorWithin (notes : List Note) (source path : String) : Prop :=
  ∃ n ∈ notes, n.isError = true ∧ n.origin.IsWithin source path

theorem HasErrorWithin.mono {notes notes' : List Note} {source path : String}
    (h : HasErrorWithin notes source path) (hnotes : notes ⊆ notes') :
    HasErrorWithin notes' source path := by
  obtain ⟨n, hn, herror⟩ := h
  exact ⟨n, hnotes hn, herror⟩

theorem HasErrorWithin.diagnostics {notes : List Note} {source path : String}
    (h : HasErrorWithin notes source path) :
    Diagnostic.HasErrorWithin (notes.map Note.diagnostic) (source ++ "#" ++ path) := by
  obtain ⟨n, hn, herror, horigin⟩ := h
  exact ⟨n.diagnostic, List.mem_map_of_mem hn, herror, Diagnostic.isWithin_of_origin horigin⟩

end Note

/-! ## Reports that stay within a path -/

namespace Report

variable {α : Type} {source path : String}

/-- All notes are about the path or about places below it. -/
def StaysWithin (r : Report α) (source path : String) : Prop :=
  ∀ n ∈ r.notes, n.origin.IsWithin source path

/-- What is refused within a path or else later has an error within the path. -/
theorem StaysWithin.hasErrorWithin {r : Report α} (h : r.StaysWithin source path)
    {before after : List Note} (hbefore : r.notes ⊆ before)
    (hafter : r.IsClean → Note.HasErrorWithin after source path) :
    Note.HasErrorWithin (before ++ after) source path := by
  by_cases hclean : r.IsClean
  · exact (hafter hclean).mono (List.subset_append_right _ _)
  · simp only [IsClean, Note.NoErrors, Classical.not_forall, Bool.not_eq_false] at hclean
    obtain ⟨n, hn, herror⟩ := hclean
    exact ⟨n, List.mem_append_left _ (hbefore hn), herror, h n hn⟩

end Report

/-! ## Readers -/

namespace Declared.Reading

variable (r : Reading) {path : String} (hpath : path ≠ LogicalPath.root)

theorem origin_isWithin (node : Node) (path : String) :
    (r.origin node path).IsWithin r.source path :=
  ⟨rfl, .refl path⟩

/-- Below a path no reader names a place that is not below the path. -/
theorem charts_within (path : String) :
    r.Charts (fun _ p => p ≠ LogicalPath.root ∧ LogicalPath.IsWithin p path)
      fun o => o.IsWithin r.source path where
  place hp := (r.origin_isWithin _ _).trans hp.2
  owner name hp _ := (r.origin_isWithin _ _).trans ((LogicalPath.key_isWithin hp.1 name).trans hp.2)
  value hp _ _ := (r.origin_isWithin _ _).trans ((LogicalPath.key_isWithin hp.1 _).trans hp.2)
  child hp _ hkey := ⟨hkey, (LogicalPath.key_isWithin hp.1 _).trans hp.2⟩
  item hp _ := ⟨LogicalPath.item_ne_root _ _ _, (LogicalPath.item_isWithin hp.1 _ _).trans hp.2⟩

include hpath

theorem staysWithin_readParameter (node : Node) :
    (r.readParameter node path).StaysWithin r.source path :=
  ((r.charts_within path).gives_readParameter ⟨hpath, .refl path⟩).notes

theorem staysWithin_readAssignment (node : Node) :
    (r.readAssignment node path).StaysWithin r.source path :=
  ((r.charts_within path).gives_readAssignment ⟨hpath, .refl path⟩).notes

theorem staysWithin_readElement (node : Node) :
    (r.readElement node path).StaysWithin r.source path :=
  ((r.charts_within path).gives_readElement ⟨hpath, .refl path⟩).notes

theorem staysWithin_readNamedInstance (node : Node) :
    (r.readNamedInstance node path).StaysWithin r.source path :=
  ((r.charts_within path).gives_readNamedInstance ⟨hpath, .refl path⟩).notes

end Declared.Reading

end DependencyWiring
