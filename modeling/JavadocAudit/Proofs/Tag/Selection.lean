import JavadocAudit.Proofs.Tag.Place

/-!
# Tags selected by what stands before them

What becomes of a tag depends on the tags before it. `select` keeps the tags that pass a test on the
tag and on everything before it, in the order of the comment. Since no two tags of a comment share a
position, at the position of a tag there is nothing to be found but the tag itself, and only if it
passes the test at its own place.
-/

namespace JavadocAudit.Tag

/-- The tags that pass a test together with all tags before them. -/
def select (test : List Tag → Tag → Bool) (earlier : List Tag) : List Tag → List Tag
  | [] => []
  | tag :: rest =>
    if test earlier tag then tag :: select test (earlier ++ [tag]) rest
    else select test (earlier ++ [tag]) rest

variable {test : List Tag → Tag → Bool} {earlier tags : List Tag} {tag : Tag}

theorem select_cons_of_pos (h : test earlier tag = true) :
    select test earlier (tag :: tags) = tag :: select test (earlier ++ [tag]) tags := by
  rw [select, if_pos h]

theorem select_cons_of_neg (h : test earlier tag = false) :
    select test earlier (tag :: tags) = select test (earlier ++ [tag]) tags := by
  rw [select, if_neg (by simp [h])]

/-- A selected tag passes the test where it stands. -/
theorem exists_of_mem_select (h : tag ∈ select test earlier tags) :
    ∃ front back, tags = front ++ tag :: back ∧ test (earlier ++ front) tag = true := by
  induction tags generalizing earlier with
  | nil => simp [select] at h
  | cons first rest ih =>
      have later (h : tag ∈ select test (earlier ++ [first]) rest) :
          ∃ front back, first :: rest = front ++ tag :: back ∧
            test (earlier ++ front) tag = true := by
        obtain ⟨front, back, split, passes⟩ := ih h
        exact ⟨first :: front, back, by rw [split, List.cons_append], by simpa using passes⟩
      by_cases passes : test earlier first = true
      · rw [select_cons_of_pos passes] at h
        rcases List.mem_cons.mp h with rfl | h
        · exact ⟨[], rest, rfl, by simpa using passes⟩
        · exact later h
      · rw [select_cons_of_neg (by simpa using passes)] at h
        exact later h

theorem mem_of_mem_select (h : tag ∈ select test earlier tags) : tag ∈ tags := by
  obtain ⟨front, back, rfl, -⟩ := exists_of_mem_select h
  simp

/-- Tags that are selected in two steps pass both tests. -/
theorem filter_select (keep : Tag → Bool) (test : List Tag → Tag → Bool)
    (earlier tags : List Tag) :
    (select test earlier tags).filter keep =
      select (fun earlier tag => test earlier tag && keep tag) earlier tags := by
  induction tags generalizing earlier with
  | nil => rfl
  | cons tag rest ih =>
      cases passes : test earlier tag <;> cases kept : keep tag <;>
        simp [select, passes, kept, ih]

/-- A test that ignores what stands before a tag selects as a filter does. -/
theorem select_const (keep : Tag → Bool) (earlier tags : List Tag) :
    select (fun _ tag => keep tag) earlier tags = tags.filter keep := by
  induction tags generalizing earlier with
  | nil => rfl
  | cons tag rest ih => cases h : keep tag <;> simp [select, h, ih]

/-- No tag at another position is found at the position of a tag. -/
theorem filter_position_select_eq_nil {position : Position}
    (h : ∀ other ∈ tags, other.position ≠ position) :
    (select test earlier tags).filter (·.position = position) = [] := by
  simp only [List.filter_eq_nil_iff, decide_eq_true_eq]
  intro other member
  exact h other (mem_of_mem_select member)

theorem select_append (front back : List Tag) :
    select test earlier (front ++ back) =
      select test earlier front ++ select test (earlier ++ front) back := by
  induction front generalizing earlier with
  | nil => simp [select]
  | cons tag rest ih =>
      simp only [List.cons_append, select, ih, List.append_assoc, List.nil_append]
      split <;> rfl

end JavadocAudit.Tag

namespace JavadocAudit

/-- Of the tags of a comment that are selected, only the tag itself is found at its position. -/
theorem Comment.filter_position_select {comment : Comment} {earlier later : List Tag} {tag : Tag}
    (split : comment.tags = earlier ++ tag :: later) (test : List Tag → Tag → Bool) :
    (Tag.select test [] comment.tags).filter (·.position = tag.position) =
      if test earlier tag then [tag] else [] := by
  have order := comment.pairwise_tags
  rw [split] at order
  obtain ⟨-, fromTag, beforeTag⟩ := List.pairwise_append.mp order
  have others : (∀ other ∈ earlier, other.position ≠ tag.position) ∧
      ∀ other ∈ later, other.position ≠ tag.position := by
    refine ⟨fun other member equal => ?_, fun other member equal => ?_⟩
    · have := beforeTag other member tag (by simp)
      exact Position.Before.irrefl _ (equal ▸ this)
    · have := (List.pairwise_cons.mp fromTag).1 other member
      exact Position.Before.irrefl _ (equal ▸ this)
  rw [split, Tag.select_append, List.filter_append,
    Tag.filter_position_select_eq_nil others.1, List.nil_append, List.nil_append]
  by_cases passes : test earlier tag = true
  · rw [Tag.select_cons_of_pos passes, List.filter_cons_of_pos (by simp),
      Tag.filter_position_select_eq_nil others.2, if_pos passes]
  · rw [Tag.select_cons_of_neg (by simpa using passes),
      Tag.filter_position_select_eq_nil others.2, if_neg passes]

end JavadocAudit
