/-
NativeBindings/Proofs/Text/CommaLists.lean

Lists inside of texts, with a comma and a blank between two items.  If no item has a comma, then the
items can be told from the text (`lists_intercalate`).
-/
import NativeBindings.Proofs.Text.Lines

namespace NativeBindings.Text

/-- What is behind the blank in front, if there is one. -/
def dropBlank : List Char → List Char
  | ' ' :: cs => cs
  | cs => cs

/-- What lies between the commas of a text, each time without the blank behind the comma. -/
def listItems (text : String) : List String :=
  match text.toList.splitOn ',' with
  | [] => []
  | first :: others => String.ofList first :: others.map fun cs => String.ofList (dropBlank cs)

/-- A text that lists items; if there are none, it is empty. -/
def Lists (text : String) (items : List String) : Prop :=
  if items = [] then text = "" else listItems text = items

/-- The blank behind a comma can be counted to the item that follows. -/
theorem intercalate_comma_blank (first : List Char) (others : List (List Char)) :
    [',', ' '].intercalate (first :: others) =
      [','].intercalate (first :: others.map (' ' :: ·)) := by
  induction others generalizing first with
  | nil => rfl
  | cons next others ih =>
    rw [List.intercalate_cons_cons, ih, List.map_cons, List.intercalate_cons_cons]
    have hblank : [','].intercalate ((' ' :: next) :: others.map (' ' :: ·)) =
        ' ' :: [','].intercalate (next :: others.map (' ' :: ·)) := by
      rcases others with - | ⟨other, others⟩ <;> rfl
    rw [hblank]
    simp

/-- **Items without commas are listed.** -/
theorem lists_intercalate {items : List String} (h : ∀ item ∈ items, Lacks ',' item) :
    Lists (", ".intercalate items) items := by
  rcases items with - | ⟨first, others⟩
  · rfl
  · have hpieces : (", ".intercalate (first :: others)).toList.splitOn ',' =
        first.toList :: (others.map String.toList).map (' ' :: ·) := by
      have hcomma : ", ".toList = [',', ' '] := rfl
      rw [String.toList_intercalate, hcomma, List.map_cons, intercalate_comma_blank,
        List.splitOn_intercalate _ _ (List.cons_ne_nil _ _)]
      intro piece hpiece
      rcases List.mem_cons.mp hpiece with rfl | hpiece
      · exact h first List.mem_cons_self
      · obtain ⟨cs, hcs, rfl⟩ := List.mem_map.mp hpiece
        obtain ⟨item, hitem, rfl⟩ := List.mem_map.mp hcs
        exact List.not_mem_cons_of_ne_of_not_mem (by decide) (h item (List.mem_cons_of_mem _ hitem))
    rw [Lists, if_neg (List.cons_ne_nil _ _), listItems, hpieces]
    dsimp only
    rw [String.ofList_toList, List.map_map, List.map_map]
    refine congrArg _ ((List.map_congr_left fun item _ => ?_).trans (List.map_id _))
    exact String.ofList_toList

end NativeBindings.Text
