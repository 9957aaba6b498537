import LookupJoin.Proofs.Residual.Leftover
/-!
Where the fields of the lookup side stand in the joined row. A target stands that many places after the driving row;
the sum is taken in a machine word, and the program stops when it is none, before the place is compared with the
length of the row. Main statement: equalities that are built are those of the right places, pairs out of range are
refused and the program never stops, all this exactly when no pair that the residual comes to, with its driving field
in the row, has a sum that is no machine word.
-/
namespace LookupJoin.JoinInfo

variable {info : JoinInfo} {keys : LookupKeys} {drivingLen : Nat} {joined : Schema} {pair : JoinPair}

/-- The residual comes to the pair: it is not consumed, and the equalities before its own are built. -/
def Reaches (info : JoinInfo) (keys : LookupKeys) (drivingLen : Nat) (joined : Schema) (pair : JoinPair) : Prop :=
  ∃ before after, (info.pairs.filter fun pair => ¬pair.Consumed keys) = before ++ pair :: after ∧
    ∀ earlier ∈ before, ∃ expr, equality drivingLen joined earlier = .ok expr

/-- The driving field of the pair or the place of its target, counted without bound, is not in the row. -/
def Beyond (drivingLen : Nat) (joined : Schema) (pair : JoinPair) : Prop :=
  joined.length ≤ pair.source ∨ joined.length ≤ drivingLen + pair.target

/-- The driving field of the pair is in the row, and the place of its target is no machine word. -/
def Overflows (drivingLen : Nat) (joined : Schema) (pair : JoinPair) : Prop :=
  pair.source < joined.length ∧ UInt64.size ≤ drivingLen + pair.target

def misplaced (drivingLen : Nat) (joined : Schema) (pair : JoinPair) : Nat :=
  if joined.length ≤ pair.source then pair.source else drivingLen + pair.target

/-- Pairs beyond the row are refused, the program does not stop, and the others compare the places they should. -/
structure CountsExactly (info : JoinInfo) (keys : LookupKeys) (drivingLen : Nat) (joined : Schema) : Prop where
  refuses : ∀ pair, info.Reaches keys drivingLen joined pair → Beyond drivingLen joined pair →
    info.residual keys drivingLen joined =
      .error (.indexOutOfRange .inputReference (misplaced drivingLen joined pair) joined.length)
  returns : info.residual keys drivingLen joined ≠ .error .overflow
  places : ∀ residual, info.residual keys drivingLen joined = .ok residual →
    ∃ equalities, info.Leftover keys drivingLen joined equalities ∧
      (residual.map Expr.conjuncts).getD [] = equalities ++ info.conditions.flatMap Expr.conjuncts

theorem equality_of_overflows (overflows : Overflows drivingLen joined pair) :
    equality drivingLen joined pair = .error .overflow := by
  obtain ⟨source, high⟩ := overflows
  have left := Expr.column_eq_ok.2 ⟨source, rfl⟩
  have stopped := lookupIndex_eq_error.2 ⟨high, rfl⟩
  exact Outcome.bind_eq_error.2 (.inr ⟨_, left, Outcome.bind_eq_error.2 (.inl stopped)⟩)

theorem equality_of_beyond (beyond : Beyond drivingLen joined pair) (word : ¬Overflows drivingLen joined pair) :
    equality drivingLen joined pair =
      .error (.indexOutOfRange .inputReference (misplaced drivingLen joined pair) joined.length) := by
  rw [equality, Outcome.bind_eq_error]
  by_cases source : joined.length ≤ pair.source
  · rw [misplaced, if_pos source]
    exact .inl (Expr.column_eq_error.2 ⟨source, rfl⟩)
  · rw [misplaced, if_neg source]
    have inside := Nat.not_le.1 source
    have left := Expr.column_eq_ok.2 ⟨inside, rfl⟩
    have index := lookupIndex_eq_ok.2 ⟨Nat.not_le.1 fun high => word ⟨inside, high⟩, rfl⟩
    have right := Expr.column_eq_error.2 ⟨beyond.resolve_left source, rfl⟩
    refine .inr ⟨_, left, Outcome.bind_eq_error.2 (.inr ⟨_, index, ?_⟩)⟩
    exact Outcome.bind_eq_error.2 (.inl right)

theorem fault_of_equality {fault : Error} (failed : equality drivingLen joined pair = .error fault) :
    (Overflows drivingLen joined pair ∧ fault = .overflow) ∨
      (∃ index, joined.length ≤ index ∧ fault = .indexOutOfRange .inputReference index joined.length) ∨
        ∃ cause, fault = .malformed cause := by
  -- In the order of the program: the driving field, the sum, the field of the lookup side, the comparison.
  rcases Outcome.bind_eq_error.1 failed with source | ⟨_, left, rest⟩
  · exact .inr (.inl ⟨pair.source, Expr.column_eq_error.1 source⟩)
  rcases Outcome.bind_eq_error.1 rest with stopped | ⟨index, _, rest⟩
  · obtain ⟨high, same⟩ := lookupIndex_eq_error.1 stopped
    exact .inl ⟨⟨(Expr.column_eq_ok.1 left).1, high⟩, same⟩
  rcases Outcome.bind_eq_error.1 rest with target | ⟨_, _, compared⟩
  · exact .inr (.inl ⟨index, Expr.column_eq_error.1 target⟩)
  · obtain ⟨cause, _, same⟩ := Expr.apply_eq_error.1 compared
    exact .inr (.inr ⟨cause, same⟩)

/-- The first equality that fails decides. -/
theorem residual_eq_error_of_reaches {fault : Error} (reached : info.Reaches keys drivingLen joined pair)
    (failed : equality drivingLen joined pair = .error fault) :
    info.residual keys drivingLen joined = .error fault := by
  obtain ⟨before, after, split, earlier⟩ := reached
  rw [← unread_eq] at split
  have stopped := Outcome.mapM_eq_error_iff.2 ⟨before, pair, after, split, earlier, failed⟩
  exact Outcome.bind_eq_error.2 (.inl stopped)

theorem fault_of_residual {fault : Error} (failed : info.residual keys drivingLen joined = .error fault) :
    ((∃ pair, info.Reaches keys drivingLen joined pair ∧ Overflows drivingLen joined pair) ∧ fault = .overflow) ∨
      (∃ index, joined.length ≤ index ∧ fault = .indexOutOfRange .inputReference index joined.length) ∨
        ∃ cause, fault = .malformed cause := by
  rcases Outcome.bind_eq_error.1 failed with equalities | ⟨_, _, conjoined⟩
  · obtain ⟨before, pair, after, split, earlier, here⟩ := Outcome.mapM_eq_error_iff.1 equalities
    rw [unread_eq] at split
    rcases fault_of_equality here with ⟨overflows, same⟩ | other
    · exact .inl ⟨⟨pair, ⟨before, after, split, earlier⟩, overflows⟩, same⟩
    · exact .inr other
  · exact .inr (.inr (Expr.malformed_of_conjoin conjoined))

theorem residual_eq_overflow_iff :
    info.residual keys drivingLen joined = .error .overflow ↔
      ∃ pair, info.Reaches keys drivingLen joined pair ∧ Overflows drivingLen joined pair := by
  constructor
  · intro stopped
    rcases fault_of_residual stopped with ⟨found, _⟩ | ⟨_, _, other⟩ | ⟨_, other⟩
    · exact found
    · cases other
    · cases other
  · rintro ⟨pair, reached, overflows⟩
    exact residual_eq_error_of_reaches reached (equality_of_overflows overflows)

theorem countsExactly_iff_never_overflows :
    (info.CountsExactly keys drivingLen joined ↔
      ∀ pair, info.Reaches keys drivingLen joined pair → ¬Overflows drivingLen joined pair) ∧
    (info.residual keys drivingLen joined = .error .overflow ↔
      ∃ pair, info.Reaches keys drivingLen joined pair ∧ Overflows drivingLen joined pair) ∧
    (∀ pair, info.Reaches keys drivingLen joined pair → Beyond drivingLen joined pair →
      ¬Overflows drivingLen joined pair → info.residual keys drivingLen joined =
        .error (.indexOutOfRange .inputReference (misplaced drivingLen joined pair) joined.length)) ∧
    (∀ fault, info.residual keys drivingLen joined = .error fault →
      fault = .overflow ∨
        (∃ index, joined.length ≤ index ∧ fault = .indexOutOfRange .inputReference index joined.length) ∨
          ∃ cause, fault = .malformed cause) ∧
    ∀ residual, info.residual keys drivingLen joined = .ok residual →
      ∃ equalities, info.Leftover keys drivingLen joined equalities ∧
        (residual.map Expr.conjuncts).getD [] = equalities ++ info.conditions.flatMap Expr.conjuncts := by
  have refuses : ∀ pair, info.Reaches keys drivingLen joined pair → Beyond drivingLen joined pair →
      ¬Overflows drivingLen joined pair → info.residual keys drivingLen joined =
        .error (.indexOutOfRange .inputReference (misplaced drivingLen joined pair) joined.length) := by
    intro pair reached beyond word
    exact residual_eq_error_of_reaches reached (equality_of_beyond beyond word)
  have places : ∀ residual, info.residual keys drivingLen joined = .ok residual →
      ∃ equalities, info.Leftover keys drivingLen joined equalities ∧
        (residual.map Expr.conjuncts).getD [] = equalities ++ info.conditions.flatMap Expr.conjuncts := by
    intro residual built
    obtain ⟨equalities, leftover, _, parts⟩ := exists_leftover built
    exact ⟨equalities, leftover, parts⟩
  refine ⟨⟨?_, ?_⟩, residual_eq_overflow_iff, refuses, ?_, places⟩
  · intro exactly pair reached overflows
    exact exactly.returns (residual_eq_overflow_iff.2 ⟨pair, reached, overflows⟩)
  · intro words
    refine ⟨fun pair reached beyond => refuses pair reached beyond (words pair reached), ?_, places⟩
    intro stopped
    obtain ⟨pair, reached, overflows⟩ := residual_eq_overflow_iff.1 stopped
    exact words pair reached overflows
  · intro fault failed
    exact (fault_of_residual failed).imp_left And.right

def narrowRow : Schema := [⟨"a", .int32, false, []⟩, ⟨"b", .int32, true, []⟩, ⟨"id", .int32, false, []⟩]

/-- After a driving row of the greatest width, a target of one stands where the machine words end. -/
def overrun : JoinInfo := ⟨[⟨1, 1⟩], []⟩

theorem not_countsExactly_overrun :
    overrun.Reaches .empty (UInt64.size - 1) narrowRow ⟨1, 1⟩ ∧ Beyond (UInt64.size - 1) narrowRow ⟨1, 1⟩ ∧
      overrun.residual .empty (UInt64.size - 1) narrowRow = .error .overflow ∧
      ¬overrun.CountsExactly .empty (UInt64.size - 1) narrowRow := by
  have reached : overrun.Reaches .empty (UInt64.size - 1) narrowRow ⟨1, 1⟩ := ⟨[], [], rfl, nofun⟩
  have beyond : Beyond (UInt64.size - 1) narrowRow ⟨1, 1⟩ := .inr (by decide)
  have stopped : overrun.residual .empty (UInt64.size - 1) narrowRow = .error .overflow := rfl
  exact ⟨reached, beyond, stopped, fun exactly => exactly.returns stopped⟩

end LookupJoin.JoinInfo
