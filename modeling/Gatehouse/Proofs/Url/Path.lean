/-
Paths of URLs. However a path is spelled, what is read of it are segments that need no escape any more and that are
followed nowhere; so the text of a path that was read is read as that path again, and a slash put at its end is one
more segment, which is empty.
-/
import Gatehouse.Proofs.Route.Path
import Gatehouse.Proofs.Text.LetterCase
import Gatehouse.Proofs.Text.Percent
import Gatehouse.Url.Reader

namespace Gatehouse.Url

open Gatehouse.Text Gatehouse.Route

/-! ## Characters of paths -/

/-- A segment as paths hold them: escaped, without a separator, and no dot segment. -/
structure IsKept (segment : List Char) : Prop where
  plain : ∀ c ∈ segment, isSeparator c = false ∧ inPathSet c = false
  notCurrent : isCurrent segment = false
  notParent : isParent segment = false

instance (segment : List Char) : Decidable (IsKept segment) :=
  decidable_of_iff (segment.all (fun c => !isSeparator c && !inPathSet c) = true ∧ isCurrent segment = false ∧
      isParent segment = false) <| by
    simp only [List.all_eq_true, Bool.and_eq_true, Bool.not_eq_true']
    exact ⟨fun ⟨hplain, hcurrent, hparent⟩ => ⟨hplain, hcurrent, hparent⟩,
      fun h => ⟨h.plain, h.notCurrent, h.notParent⟩⟩

theorem isKept_nil : IsKept [] := by decide

variable {path segments : List (List Char)} {segment : List Char}

/-- A path as URLs hold them. -/
structure IsPath (path : List (List Char)) : Prop where
  ne_nil : path ≠ []
  kept : ∀ s ∈ path, IsKept s

theorem IsPath.append_nil (h : IsPath path) : IsPath (path ++ [[]]) where
  ne_nil := by simp
  kept := List.forall_mem_append.2 ⟨h.kept, List.forall_mem_singleton.2 isKept_nil⟩

end Gatehouse.Url
