/-!
# Positions in a source text

Lines and columns count from one and columns count characters. Hosts may hand in any whole numbers,
so positions are not restricted to the positive ones.
-/

namespace JavadocAudit

/-- A line and a column of a source text. -/
structure Position where
  line : Int
  column : Int
  deriving DecidableEq, Repr

namespace Position

/-- Reading order: by line, then by column. -/
def Before (a b : Position) : Prop :=
  a.line < b.line ∨ (a.line = b.line ∧ a.column < b.column)

instance (a b : Position) : Decidable (Before a b) :=
  inferInstanceAs (Decidable (_ ∨ _))

theorem Before.irrefl (a : Position) : ¬ Before a a := by
  unfold Before
  omega

end Position

end JavadocAudit
