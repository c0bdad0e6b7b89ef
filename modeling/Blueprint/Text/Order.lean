/-!
# Order of texts

Texts are ordered by their characters, the smaller code point first.
-/

namespace Blueprint.Text

/-- The texts in ascending order. -/
def ascending (items : List String) : List String :=
  items.mergeSort fun a b => decide (a ≤ b)

/-- The texts in ascending order, each once. -/
def distinct (items : List String) : List String := ascending items.eraseDups

@[simp] theorem mem_distinct {s : String} {items : List String} :
    s ∈ distinct items ↔ s ∈ items := by
  simp [distinct, ascending, List.mem_eraseDups]

theorem nodup_eraseDups : ∀ items : List String, items.eraseDups.Nodup
  | [] => by simp
  | item :: rest => by
      rw [List.eraseDups_cons, List.nodup_cons]
      exact ⟨by simp [List.mem_eraseDups], nodup_eraseDups _⟩
termination_by items => items.length
decreasing_by exact Nat.lt_succ_of_le (List.length_filter_le _ _)

theorem nodup_distinct (items : List String) : (distinct items).Nodup :=
  (List.mergeSort_perm _ _).nodup_iff.mpr (nodup_eraseDups items)

end Blueprint.Text
