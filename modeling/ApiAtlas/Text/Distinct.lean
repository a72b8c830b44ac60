import ApiAtlas.Text.Basic

/-!
# Distinct texts

**Definitions.** `distinct` keeps the first occurrence of each text of a list.

**Results.** Members are kept (`mem_distinct`), none twice (`nodup_distinct`), and a later list
adds only what is new (`distinct_append`).  A list without repetitions stays as it is
(`distinct_of_nodup`), and so it does with a new text at its end (`nodup_concat`).
-/

namespace ApiAtlas

namespace Text

/-- The distinct texts of a list in the order of their first occurrence. -/
def distinct : List Text → List Text
  | [] => []
  | t :: ts => t :: (distinct ts).filter (· != t)

section Laws

@[simp] theorem mem_distinct {t : Text} {ts : List Text} : t ∈ distinct ts ↔ t ∈ ts := by
  induction ts with
  | nil => simp [distinct]
  | cons u ts ih =>
    by_cases h : t = u
    · simp [distinct, h]
    · simp [distinct, h, ih]

/-- No text is kept twice. -/
theorem nodup_distinct (ts : List Text) : (distinct ts).Nodup := by
  induction ts with
  | nil => simp [distinct]
  | cons u ts ih =>
    rw [distinct, List.nodup_cons]
    exact ⟨by simp, ih.sublist List.filter_sublist⟩

theorem distinct_of_nodup {ts : List Text} (h : ts.Nodup) : distinct ts = ts := by
  induction ts with
  | nil => rfl
  | cons t ts ih =>
    obtain ⟨hnew, hrest⟩ := List.nodup_cons.1 h
    rw [distinct, ih hrest, List.filter_eq_self.2]
    intro u hu
    rw [bne_iff_ne]
    rintro rfl
    exact hnew hu

theorem nodup_concat {t : Text} {ts : List Text} (h : ts.Nodup) (hnew : t ∉ ts) :
    (ts ++ [t]).Nodup := by
  rw [List.nodup_append]
  refine ⟨h, by simp, ?_⟩
  rintro u hu v hv rfl
  exact hnew (List.mem_singleton.1 hv ▸ hu)

/-- A later list adds only what is new. -/
theorem distinct_append (ts us : List Text) :
    distinct (ts ++ us) = distinct ts ++ (distinct us).filter (fun u => !ts.contains u) := by
  induction ts with
  | nil => exact (List.filter_eq_self.2 fun _ _ => rfl).symm
  | cons t ts ih =>
    simp only [List.cons_append, distinct, ih, List.filter_append, List.filter_filter]
    congr 2
    apply List.filter_congr
    intro u _
    by_cases h : u = t
    · simp [h]
    · simp [h]

end Laws

end Text

end ApiAtlas
