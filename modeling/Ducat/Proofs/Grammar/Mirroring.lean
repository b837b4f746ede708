import Ducat.Proofs.Grammar.Succession

/-! Two readings of the same tokens, side by side. -/

namespace Ducat

namespace Grammar

def Error.isLexical : Error → Bool
  | lexical _ => true
  | _ => false

namespace Source

variable {σ τ : Type} [Source σ] [Source τ]

/-- As long as `source` has tokens, `other` has the same ones at the same positions: `left` tokens,
up to the end of both texts or up to a fault in the first one. -/
inductive Alike (ending : Except LexError Position) : Nat → σ → τ → Prop where
  | finished {source : σ} {other : τ} (same : current other = current source)
      (atEnd : (current source).kind = .endOfText)
      (found : ending = .ok (current source).position) : Alike ending 0 source other
  | faulty {source : σ} {other : τ} {error : LexError} (same : current other = current source)
      (inside : (current source).kind ≠ .endOfText) (failed : advance source = .error error)
      (found : ending = .error error) : Alike ending 1 source other
  | further {left : Nat} {source next : σ} {other otherNext : τ}
      (same : current other = current source) (inside : (current source).kind ≠ .endOfText)
      (advanced : advance source = .ok next) (otherAdvanced : advance other = .ok otherNext)
      (behind : Alike ending left next otherNext) : Alike ending (left + 1) source other

variable {ending : Except LexError Position} {left : Nat} {source : σ} {other : τ}

theorem Alike.current_eq (alike : Alike ending left source other) :
    current other = current source := by
  cases alike <;> assumption

theorem Alike.of_atEnd (alike : Alike ending left source other)
    (atEnd : (current source).kind = .endOfText) :
    left = 0 ∧ ending = .ok (current source).position := by
  cases alike with
  | finished _ _ found => exact ⟨rfl, found⟩
  | faulty _ inside => exact absurd atEnd inside
  | further _ inside => exact absurd atEnd inside

theorem current_eq_of_atEnd (atEnd : (current source).kind = .endOfText)
    (otherEnd : (current other).kind = .endOfText)
    (same : (current other).position = (current source).position) :
    current other = current source := by
  rw [PlacedToken.mk.injEq]
  exact ⟨(Token.eq_endOfText_of_kind otherEnd).trans (Token.eq_endOfText_of_kind atEnd).symm, same⟩

/-- Two sources are alike as long as the first one has any tokens, if the list of the other one
begins with its tokens. Where the first text ends, the other one has to end too. -/
theorem Alike.of_lists {list otherList : TokenList} (lists : Lists (.ok source) list)
    (otherLists : Lists (.ok other) otherList) (begins : list.tokens <+: otherList.tokens)
    (stops : ∀ position, list.ending = .ok position → otherList = list) :
    Alike list.ending list.tokens.length source other := by
  rcases list with ⟨tokens, ending⟩
  induction tokens generalizing source other otherList with
  | nil =>
      rcases lists.of_nil with ⟨atEnd, rfl⟩
      rw [stops _ rfl] at otherLists
      rcases otherLists.of_nil with ⟨otherEnd, same⟩
      exact .finished (current_eq_of_atEnd atEnd otherEnd (Except.ok.inj same).symm) atEnd rfl
  | cons token tokens induction =>
      rcases otherList with ⟨_, otherEnding⟩
      rcases begins with ⟨further, rfl⟩
      rcases lists.of_cons with ⟨rfl, inside, behind⟩
      rcases otherLists.of_cons with ⟨same, _, otherBehind⟩
      have otherStops : ∀ position, ending = .ok position →
          (⟨tokens ++ further, otherEnding⟩ : TokenList) = ⟨tokens, ending⟩ := by
        intro position ended
        have whole := stops position ended
        rw [TokenList.mk.injEq, List.cons_append, List.cons.injEq] at whole
        rw [whole.1.2, whole.2]
      cases advanced : advance source with
      | error error =>
          rw [advanced] at behind
          cases behind.of_error
          exact .faulty same inside advanced rfl
      | ok next =>
          rw [advanced] at behind
          cases otherAdvanced : advance other with
          | error error =>
              -- The other list cannot end first, since the first text would end there too.
              rw [otherAdvanced] at otherBehind
              have empty := TokenList.mk.inj otherBehind.of_error
              rw [(List.append_eq_nil_iff.mp empty.1).1] at behind
              have ended := behind.of_nil.2
              cases empty.2.symm.trans ((TokenList.mk.inj (otherStops _ ended)).2.trans ended)
          | ok otherNext =>
              rw [otherAdvanced] at otherBehind
              exact .further same inside advanced otherAdvanced
                (induction otherBehind behind (List.prefix_append tokens further) otherStops)

end Source

open Source

variable {σ τ α β : Type} [Source σ] [Source τ]

/-- How two readings of the same tokens end: both give the same and have the same tokens left, or
both refuse the same token for the same reason, or there is a fault in the text of the first
one. -/
inductive Parallel (ending : Except LexError Position) (outcome : α → Nat → Prop) :
    Except Error (α × σ) → Except Error (α × τ) → Prop where
  | given {result : α} {left : Nat} {next : σ} {otherNext : τ}
      (alike : Alike ending left next otherNext) (holds : outcome result left) :
      Parallel ending outcome (.ok (result, next)) (.ok (result, otherNext))
  | refused {error : Error} (meant : error.isLexical = false) :
      Parallel ending outcome (.error error) (.error error)
  | fault {error : LexError} (found : ending = .error error)
      (second : Except Error (α × τ)) :
      Parallel ending outcome (.error (.lexical error)) second

/-- Where `left` tokens are left, two readings that begin at the same tokens end in the same way,
and what they give stands to the number of tokens that are left then as `outcome` says. -/
def Mirrors (ending : Except LexError Position) (left : Nat) (source : σ) (other : τ)
    (first : Reading σ α) (second : Reading τ α) (outcome : α → Nat → Prop) : Prop :=
  Alike ending left source other → Parallel ending outcome (first source) (second other)

inductive Moves (left : Nat) : Option α → Nat → Prop where
  | none {rest : Nat} (least : rest ≤ left) : Moves left none rest
  | some {result : α} {rest : Nat} (fewer : rest < left) : Moves left (some result) rest

theorem Moves.of_lt {left rest : Nat} (fewer : rest < left) (result : Option α) :
    Moves left result rest := by
  cases result with
  | none => exact .none (Nat.le_of_lt fewer)
  | some => exact .some fewer

theorem Moves.least {left rest : Nat} {result : Option α} (moves : Moves left result rest) :
    rest ≤ left := by
  cases moves with
  | none least => exact least
  | some fewer => exact Nat.le_of_lt fewer

variable {ending : Except LexError Position} {left : Nat} {source : σ} {other : τ}
  {outcome : α → Nat → Prop}

namespace Mirrors

theorem pure {result : α} (holds : outcome result left) :
    Mirrors ending left source other (Pure.pure result) (Pure.pure result) outcome :=
  fun alike => .given alike holds

theorem throw {error : Error} (meant : error.isLexical = false) :
    Mirrors ending left source other (MonadExcept.throw error) (MonadExcept.throw error)
      outcome :=
  fun _ => .refused meant

theorem mono {first : Reading σ α} {second : Reading τ α} {stronger : α → Nat → Prop}
    (mirrors : Mirrors ending left source other first second stronger)
    (implies : ∀ result rest, stronger result rest → outcome result rest) :
    Mirrors ending left source other first second outcome := by
  intro alike
  have parallel := mirrors alike
  generalize first source = one at parallel ⊢
  generalize second other = two at parallel ⊢
  cases parallel with
  | given alike holds => exact .given alike (implies _ _ holds)
  | refused meant => exact .refused meant
  | fault found => exact .fault found _

theorem bind {first : Reading σ β} {second : Reading τ β} {next : β → Reading σ α}
    {otherNext : β → Reading τ α} {between : β → Nat → Prop}
    (mirrors : Mirrors ending left source other first second between)
    (behind : ∀ value rest middle otherMiddle, between value rest →
      Mirrors ending rest middle otherMiddle (next value) (otherNext value) outcome) :
    Mirrors ending left source other (first >>= next) (second >>= otherNext) outcome := by
  intro alike
  have parallel := mirrors alike
  change Parallel ending outcome (first source >>= fun (value, middle) => next value middle)
    (second other >>= fun (value, middle) => otherNext value middle)
  generalize first source = one at parallel ⊢
  generalize second other = two at parallel ⊢
  cases parallel with
  | given alike holds => exact behind _ _ _ _ holds alike
  | refused meant => exact .refused meant
  | fault found => exact .fault found _

theorem bind_offered {first : Reading σ (Option β)} {second : Reading τ (Option β)}
    {next : Option β → Reading σ α} {otherNext : Option β → Reading τ α}
    (mirrors : Mirrors ending left source other first second (Moves left))
    (absent : ∀ rest middle otherMiddle, rest ≤ left →
      Mirrors ending rest middle otherMiddle (next none) (otherNext none) outcome)
    (present : ∀ value rest middle otherMiddle, rest < left →
      Mirrors ending rest middle otherMiddle (next (some value)) (otherNext (some value))
        outcome) :
    Mirrors ending left source other (first >>= next) (second >>= otherNext) outcome := by
  apply bind mirrors
  intro value rest middle otherMiddle moves
  cases moves with
  | none least => exact absent rest middle otherMiddle least
  | some fewer => exact present _ rest middle otherMiddle fewer

theorem ite {condition : Prop} [Decidable condition] {first further : Reading σ α}
    {second otherFurther : Reading τ α}
    (holds : condition → Mirrors ending left source other first second outcome)
    (fails : ¬condition → Mirrors ending left source other further otherFurther outcome) :
    Mirrors ending left source other (if condition then first else further)
      (if condition then second else otherFurther) outcome := by
  by_cases settled : condition
  · rw [if_pos settled, if_pos settled]
    exact holds settled
  · rw [if_neg settled, if_neg settled]
    exact fails settled

theorem peek {next : PlacedToken → Reading σ α} {otherNext : PlacedToken → Reading τ α}
    (mirrors : Mirrors ending left source other (next (current source))
      (otherNext (current source)) outcome) :
    Mirrors ending left source other (Grammar.peek >>= next) (Grammar.peek >>= otherNext)
      outcome := by
  intro alike
  change Parallel ending outcome (next (current source) source) (otherNext (current other) other)
  rw [alike.current_eq]
  exact mirrors alike

theorem take {token : Token} (present : (current source).token = token)
    (inside : token.kind ≠ .endOfText) :
    Mirrors ending left source other Grammar.take Grammar.take fun _ rest => rest < left := by
  subst present
  intro alike
  cases alike with
  | finished _ atEnd => exact absurd atEnd inside
  | faulty _ _ failed found =>
      rw [take_of_error failed]
      exact .fault found _
  | further same _ advanced otherAdvanced behind =>
      rw [take_of_advance advanced, take_of_advance otherAdvanced, same]
      exact .given behind (Nat.lt_succ_self _)

theorem unexpected (rule : Rule) (expected : List TokenKind) :
    Mirrors ending left source other (Grammar.unexpected rule expected)
      (Grammar.unexpected rule expected) outcome :=
  peek (throw rfl)

theorem takeIf {kind : TokenKind} (inside : kind ≠ .endOfText) {next : Bool → Reading σ α}
    {otherNext : Bool → Reading τ α}
    (taken : ∀ rest middle otherMiddle, rest < left →
      Mirrors ending rest middle otherMiddle (next true) (otherNext true) outcome)
    (kept : Mirrors ending left source other (next false) (otherNext false) outcome) :
    Mirrors ending left source other (Grammar.takeIf kind >>= next)
      (Grammar.takeIf kind >>= otherNext) outcome := by
  intro alike
  change Parallel ending outcome
    (Grammar.takeIf kind source >>= fun (took, middle) => next took middle)
    (Grammar.takeIf kind other >>= fun (took, middle) => otherNext took middle)
  by_cases found : (current source).kind = kind
  · cases alike with
    | finished _ atEnd => exact absurd (found.symm.trans atEnd) inside
    | faulty _ _ failed ended =>
        rw [takeIf_of_error found failed]
        exact .fault ended _
    | further same _ advanced otherAdvanced behind =>
        rw [← same] at found
        rw [takeIf_of_advance (same ▸ found) advanced, takeIf_of_advance found otherAdvanced]
        exact taken _ _ _ (Nat.lt_succ_self _) behind
  · have otherFound : (current other).kind ≠ kind := alike.current_eq ▸ found
    rw [takeIf_of_ne found, takeIf_of_ne otherFound]
    exact kept alike

theorem expect (rule : Rule) {kind : TokenKind} (inside : kind ≠ .endOfText) :
    Mirrors ending left source other (Grammar.expect rule kind) (Grammar.expect rule kind)
      fun _ rest => rest < left := by
  apply takeIf inside
  · intro rest _ _ fewer
    exact pure fewer
  · exact unexpected rule [kind]

theorem expectName (rule : Rule) :
    Mirrors ending left source other (Grammar.expectName rule) (Grammar.expectName rule)
      fun _ rest => rest < left := by
  apply peek
  split
  next name found =>
    apply bind (take found (by simp [Token.kind]))
    intro _ rest _ _ fewer
    exact pure fewer
  · exact unexpected rule [.name]

theorem variableType :
    Mirrors ending left source other Grammar.variableType Grammar.variableType
      (Moves left) := by
  apply peek
  apply ite
  · intro declares
    have inside : (current source).kind ≠ .endOfText := by
      intro atEnd
      rw [atEnd] at declares
      cases declares
    apply bind (take rfl inside)
    intro _ rest _ _ fewer
    exact pure (.of_lt fewer _)
  · intro _
    exact pure (.none (Nat.le_refl _))

theorem required {reading : Reading σ (Option α)} {otherReading : Reading τ (Option α)}
    {missing : Position → Error} (meant : ∀ position, (missing position).isLexical = false)
    (mirrors : Mirrors ending left source other reading otherReading (Moves left)) :
    Mirrors ending left source other (Grammar.required reading missing)
      (Grammar.required otherReading missing) fun _ rest => rest < left := by
  apply peek
  apply bind_offered mirrors
  · intro rest _ _ _
    exact throw (meant _)
  · intro result rest _ _ fewer
    exact pure fewer

section

variable {item : Reading σ (Option α)} {otherItem : Reading τ (Option α)}
  {missing : Position → Error} {bound count otherCount : Nat}
  (meant : ∀ position, (missing position).isLexical = false)
  (mirrors : ∀ {left source other}, left < bound →
    Mirrors ending left source other item otherItem (Moves left))

include meant mirrors

theorem itemsBehindCommas (near : left ≤ bound) (enough : left < count)
    (otherEnough : left < otherCount) :
    Mirrors ending left source other (Grammar.itemsBehindCommas item missing count)
      (Grammar.itemsBehindCommas otherItem missing otherCount) fun _ rest => rest ≤ left := by
  induction count generalizing left source other otherCount with
  | zero => exact absurd enough (Nat.not_lt_zero _)
  | succ count induction =>
      rcases otherCount with _ | otherCount
      · exact absurd otherEnough (Nat.not_lt_zero _)
      apply takeIf (by simp)
      · intro rest _ _ fewer
        apply bind (required meant (mirrors (by omega)))
        intro first further _ _ moved
        apply bind (induction (by omega) (by omega) (by omega))
        intro items last _ _ least
        exact pure (by omega)
      · exact pure (Nat.le_refl _)

theorem separatedItems (near : left < bound) (enough : left < count)
    (otherEnough : left < otherCount) :
    Mirrors ending left source other (Grammar.separatedItems item missing count)
      (Grammar.separatedItems otherItem missing otherCount) fun _ rest => rest ≤ left := by
  apply bind_offered (mirrors near)
  · intro rest _ _ least
    exact pure least
  · intro first rest _ _ fewer
    apply bind (itemsBehindCommas meant mirrors (by omega) (by omega) (by omega))
    intro items last _ _ least
    exact pure (by omega)

end

end Mirrors

end Grammar

end Ducat
