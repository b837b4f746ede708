import Ducat.Proofs.Grammar.Stopping
import Ducat.Proofs.Grammar.Taking
import Ducat.Proofs.Grammar.Viability

/-! At which token a reading points if it fails. -/

namespace Ducat

theorem Token.exists_name_of_kind {token : Token} (kind : token.kind = .name) :
    ∃ word, token = .name word := by
  cases token <;> cases kind
  exact ⟨_, rfl⟩

namespace Grammar

open Source

variable {σ α β : Type} [Source σ]

theorem isVariableType_of_absent {source last : σ}
    (read : variableType source = .ok (none, last)) :
    (current source).kind.isVariableType = false := by
  cases declares : (current source).kind.isVariableType with
  | false => rfl
  | true =>
      rcases ValueType.exists_of_kind_isVariableType declares with ⟨type, found, _⟩
      have offered : variableType source =
          (take >>= fun _ => pure (some type) : Reading σ _) source := by
        change (if (current source).kind.isVariableType then
          (take >>= fun _ => pure (current source).token.type? : Reading σ _) else pure none)
            source = _
        rw [declares, if_pos rfl, found]
      rw [offered] at read
      cases advanced : advance source with
      | error error =>
          rw [Reading.bind_of_error (take_of_error advanced)] at read
          cases read
      | ok next =>
          rw [Reading.bind_of_ok (take_of_advance advanced)] at read
          cases read

/-- What a reading does in `source`, where the tokens of `before` were consumed already. -/
inductive Settles (before : List Token) (source : σ) (reading : Reading σ α) : Prop where
  | fault {error : LexError} (failed : reading source = .error (.lexical error))
  | given {result : α} {taken : List Token} {place : σ}
      (stops : Stops source reading taken place fun last => .ok (result, last))
  | refused {error : Error} {taken : List Token} {place : σ}
      (points : error.PointsAt (before ++ taken) (current place))
      (stops : Stops source reading taken place fun _ => .error error)

/-- If fewer than `limit` tokens are left in `source`, the reading points at the token that it does
not take, should it fail. -/
def Points (limit : Nat) (before : List Token) (source : σ) (reading : Reading σ α) : Prop :=
  Within limit source → Settles before source reading

variable {limit : Nat} {before : List Token} {source : σ}

namespace Points

theorem pure (result : α) : Points limit before source (Pure.pure result) :=
  fun _ => .given (.pure result source)

theorem throw {error : Error} (points : error.PointsAt before (current source)) :
    Points limit before source (MonadExcept.throw error : Reading σ α) := by
  intro _
  rw [← List.append_nil before] at points
  exact .refused points (.throw error source)

theorem congr {reading other : Reading σ α} (points : Points limit before source reading)
    (same : ∀ place, current place = current source → other place = reading place) :
    Points limit before source other := by
  intro within
  cases points within with
  | fault failed => exact .fault ((same source rfl).trans failed)
  | given stops => exact .given (stops.congr same)
  | refused points stops => exact .refused points (stops.congr same)

theorem bind {first : Reading σ β} {next : β → Reading σ α}
    {between : β → List Token → σ → Prop} (takes : Takes limit source first between)
    (points : Points limit before source first)
    (behind : ∀ value taken middle, between value taken middle → Passes source taken middle →
      first source = .ok (value, middle) →
        Points (limit - taken.length) (before ++ taken) middle (next value)) :
    Points limit before source (first >>= next) := by
  intro within
  cases points within with
  | fault failed => exact .fault (Reading.bind_of_error failed)
  | refused points stops => exact .refused points stops.bind_error
  | @given value taken middle stops =>
      rcases takes within stops.read with ⟨own, passes, holds⟩
      cases passes.unique within stops.passes
      cases behind value taken middle holds passes stops.read (within.of_passes passes) with
      | fault failed => exact .fault ((Reading.bind_of_ok stops.read).trans failed)
      | given further => exact .given (stops.bind further)
      | refused points further =>
          rw [List.append_assoc] at points
          exact .refused points (stops.bind further)

theorem bind_token {first : Reading σ β} {next : β → Reading σ α} {token : β → Token}
    (takes : Takes limit source first fun value taken _ => taken = [token value])
    (points : Points limit before source first)
    (behind : ∀ value middle, Points (limit - 1) (before ++ [token value]) middle (next value)) :
    Points limit before source (first >>= next) := by
  apply bind takes points
  intro value taken middle equal _ _
  subst equal
  exact behind value middle

theorem bind_tokens {first : Reading σ β} {next : β → Reading σ α} {tokens : β → List Token}
    {good : β → σ → Prop}
    (takes : Takes limit source first fun value taken middle =>
      taken = tokens value ∧ good value middle)
    (points : Points limit before source first)
    (behind : ∀ value middle, good value middle →
      Points (limit - (tokens value).length) (before ++ tokens value) middle (next value)) :
    Points limit before source (first >>= next) := by
  apply bind takes points
  intro value taken middle holds _ _
  rcases holds with ⟨equal, good⟩
  subst equal
  exact behind value middle good

theorem bind_offered {first : Reading σ (Option β)} {next : Option β → Reading σ α}
    {tokens : β → List Token} {good : β → σ → Prop}
    (takes : Takes limit source first (Offers tokens good))
    (points : Points limit before source first)
    (absent : first source = .ok (none, source) → Points limit before source (next none))
    (present : ∀ value middle, good value middle →
      Points (limit - (tokens value).length) (before ++ tokens value) middle
        (next (some value))) :
    Points limit before source (first >>= next) := by
  apply bind takes points
  intro value taken middle holds passes read
  cases value with
  | none =>
      cases holds
      cases passes
      rw [List.append_nil]
      exact absent read
  | some value =>
      rcases holds with ⟨equal, good⟩
      subst equal
      exact present value middle good

theorem map {first : Reading σ β} {next : β → α}
    (points : Points limit before source first) :
    Points limit before source (first >>= fun value => Pure.pure (next value)) := by
  intro within
  cases points within with
  | fault failed => exact .fault (Reading.bind_of_error failed)
  | given stops => exact .given (stops.bind (.pure _ _))
  | refused points stops => exact .refused points stops.bind_error

theorem peek {next : PlacedToken → Reading σ α}
    (points : Points limit before source (next (current source))) :
    Points limit before source (Grammar.peek >>= next) := by
  apply points.congr
  intro place same
  rw [← same]
  rfl

theorem take {next : Token → Reading σ α} {token : Token}
    (found : (current source).token = token) (inside : token.kind ≠ .endOfText)
    (behind : ∀ value middle, Points (limit - 1) (before ++ [token]) middle (next value)) :
    Points limit before source (Grammar.take >>= next) := by
  apply bind_token (.take found inside) _ behind
  intro _
  rw [← found] at inside
  cases advanced : advance source with
  | error error => exact .fault (take_of_error advanced)
  | ok next => exact .given (.take inside advanced)

theorem unexpected {rule : Rule} {expected : List TokenKind}
    (absent : (current source).kind ∉ expected)
    (viable : ∀ token : Token, token.kind ∈ expected → Viable (before ++ [token])) :
    Points limit before source (Grammar.unexpected rule expected : Reading σ α) :=
  peek (throw ⟨rfl, rfl, absent, viable⟩)

theorem unexpected_of_ne {rule : Rule} (token : Token) (fixed : token.isFixed)
    (different : (current source).kind ≠ token.kind) (viable : Viable (before ++ [token])) :
    Points limit before source (Grammar.unexpected rule [token.kind] : Reading σ α) := by
  apply unexpected
  · intro expected
    exact different (List.mem_singleton.mp expected)
  · intro other expected
    rw [Token.eq_of_kind_eq fixed (List.mem_singleton.mp expected)]
    exact viable

theorem takeIf {next : Bool → Reading σ α} (token : Token) (fixed : token.isFixed)
    (taken : (current source).kind = token.kind → ∀ middle,
      Points (limit - 1) (before ++ [token]) middle (next true))
    (left : (current source).kind ≠ token.kind → Points limit before source (next false)) :
    Points limit before source (Grammar.takeIf token.kind >>= next) := by
  by_cases same : (current source).kind = token.kind
  · have points : Points limit before source (Grammar.take >>= fun _ => next true) :=
      take (Token.eq_of_kind_eq fixed same) (Token.kind_ne_endOfText fixed)
        fun _ => taken same
    apply points.congr
    intro place equal
    rw [← equal] at same
    cases advanced : advance place with
    | error error =>
        rw [Reading.bind_of_error (takeIf_of_error same advanced),
          Reading.bind_of_error (take_of_error advanced)]
    | ok next =>
        rw [Reading.bind_of_ok (takeIf_of_advance same advanced),
          Reading.bind_of_ok (take_of_advance advanced)]
  · apply (left same).congr
    intro place equal
    rw [← equal] at same
    exact Reading.bind_of_ok (takeIf_of_ne same)

theorem bind_expect {next : Unit → Reading σ α} (rule : Rule) (token : Token)
    (fixed : token.isFixed) (viable : Viable (before ++ [token]))
    (behind : ∀ middle, Points (limit - 1) (before ++ [token]) middle (next ())) :
    Points limit before source (Grammar.expect rule token.kind >>= next) := by
  apply bind_token (.expect rule token fixed) _ fun _ => behind
  apply takeIf token fixed
  · intro _ middle
    exact pure ()
  · intro different
    exact unexpected_of_ne token fixed different viable

theorem expectName (rule : Rule) (viable : ∀ name, Viable (before ++ [.name name])) :
    Points limit before source (Grammar.expectName rule) := by
  apply peek
  split
  next name found =>
    apply take found (by simp [Token.kind])
    intro _ middle
    exact pure name
  next other =>
    apply unexpected
    · intro expected
      rcases Token.exists_name_of_kind (List.mem_singleton.mp expected) with ⟨name, found⟩
      exact other name found
    · intro token expected
      rcases Token.exists_name_of_kind (List.mem_singleton.mp expected) with ⟨name, rfl⟩
      exact viable name

theorem bind_name {next : String → Reading σ α} (rule : Rule)
    (viable : ∀ name, Viable (before ++ [.name name]))
    (behind : ∀ name middle, Points (limit - 1) (before ++ [.name name]) middle (next name)) :
    Points limit before source (Grammar.expectName rule >>= next) :=
  bind_token (.expectName rule) (expectName rule viable) behind

theorem variableType : Points limit before source Grammar.variableType := by
  apply peek
  split
  next declares =>
    have inside : (current source).kind ≠ .endOfText := by
      intro atEnd
      rw [atEnd] at declares
      cases declares
    apply take rfl inside
    intro _ middle
    exact pure _
  · exact pure none

theorem required {reading : Reading σ (Option α)} {missing : Position → Error}
    {tokens : α → List Token} {good : α → σ → Prop}
    (takes : Takes limit source reading (Offers tokens good))
    (points : Points limit before source reading)
    (blames : (missing (current source).position).PointsAt before (current source)) :
    Points limit before source (Grammar.required reading missing) := by
  apply peek
  apply bind_offered takes points
  · intro _
    exact throw blames
  · intro value middle _
    exact pure value

theorem bind_required {reading : Reading σ (Option β)} {next : β → Reading σ α}
    {missing : Position → Error} {tokens : β → List Token} {good : β → σ → Prop}
    (takes : Takes limit source reading (Offers tokens good))
    (points : Points limit before source reading)
    (blames : (missing (current source).position).PointsAt before (current source))
    (behind : ∀ value middle, good value middle →
      Points (limit - (tokens value).length) (before ++ tokens value) middle (next value)) :
    Points limit before source (Grammar.required reading missing >>= next) :=
  bind_tokens (.required missing takes) (required takes points blames) behind

section

variable {item : Reading σ (Option α)} {tokens : α → List Token} {good : α → Prop}
  {missing : Position → Error}
  (item_takes : ∀ {limit source},
    Takes limit source item (Offers tokens fun result _ => good result))
  (item_points : ∀ {limit before source},
    (∀ result, good result → Viable (before ++ tokens result)) →
      Points limit before source item)
  (blames : ∀ {before} {wrong : PlacedToken}, Viable before →
    (missing wrong.position).PointsAt before wrong)

include item_takes item_points blames

theorem itemsBehindCommas (possible : ∃ result, good result) (count : Nat)
    (viable : ∀ items, (∀ item ∈ items, good item) →
      Viable (before ++ Token.behindCommas tokens items)) :
    Points limit before source (Grammar.itemsBehindCommas item missing count) := by
  induction count generalizing limit before source with
  | zero => exact pure []
  | succ count induction =>
      apply takeIf (.symbol .comma) rfl
      · intro _ middle
        have first_viable : ∀ result, good result →
            Viable (before ++ [.symbol .comma] ++ tokens result) := by
          intro result holds
          have whole := viable [result] (by simpa using holds)
          simpa [Token.behindCommas] using whole
        rcases possible with ⟨result, holds⟩
        apply bind_required item_takes (item_points first_viable)
          (blames (.of_append _ (first_viable result holds)))
        intro first behind firstGood
        apply map
        apply induction
        intro items good
        have whole := viable (first :: items) (List.forall_mem_cons.mpr ⟨firstGood, good⟩)
        simpa [Token.behindCommas_cons] using whole
      · intro _
        exact pure []

theorem separatedItems (possible : ∃ result, good result) (count : Nat)
    (viable : ∀ items, (∀ item ∈ items, good item) →
      Viable (before ++ Token.separated tokens items)) :
    Points limit before source (Grammar.separatedItems item missing count) := by
  apply bind_offered item_takes
  · apply item_points
    intro result holds
    have whole := viable [result] (by simpa using holds)
    simpa [Token.separated, Token.behindCommas] using whole
  · intro _
    exact pure []
  · intro first middle firstGood
    apply map
    apply itemsBehindCommas item_takes item_points blames possible
    intro items good
    have whole := viable (first :: items) (List.forall_mem_cons.mpr ⟨firstGood, good⟩)
    simpa [Token.separated] using whole

end

end Points

end Grammar

end Ducat
