import Ducat.Proofs.Grammar.Remaining
import Ducat.Proofs.Grammar.Shape

/-! What a reading has taken from its source whenever it gives a result. -/

namespace Ducat

namespace Grammar

open Source

variable {σ α β : Type} [Source σ]

/-- If fewer than `limit` tokens are left in `source`, each result of `reading` stands to the taken
tokens and to the place behind them as `outcome` says. -/
def Takes (limit : Nat) (source : σ) (reading : Reading σ α)
    (outcome : α → List Token → σ → Prop) : Prop :=
  Within limit source → ∀ {result last}, reading source = .ok (result, last) →
    ∃ taken, Passes source taken last ∧ outcome result taken last

/-- The outcome of a rule that is optional: it has taken nothing, or the tokens of something that
is as `good` says. -/
def Offers (tokens : α → List Token) (good : α → σ → Prop) : Option α → List Token → σ → Prop
  | none, taken, _ => taken = []
  | some result, taken, last => taken = tokens result ∧ good result last

variable {limit : Nat} {source : σ} {outcome : α → List Token → σ → Prop}

namespace Takes

theorem pure {result : α} (holds : outcome result [] source) :
    Takes limit source (Pure.pure result) outcome := by
  intro _ _ _ equal
  cases equal
  exact ⟨[], .stay source, holds⟩

theorem throw (error : Error) :
    Takes limit source (MonadExcept.throw error : Reading σ α) outcome := by
  intro _ _ _ equal
  cases equal

theorem unexpected (rule : Rule) (expected : List TokenKind) :
    Takes limit source (unexpected rule expected : Reading σ α) outcome := by
  intro _ _ _ equal
  cases equal

theorem mono {reading : Reading σ α} {stronger : α → List Token → σ → Prop}
    (takes : Takes limit source reading stronger)
    (implies : ∀ result taken last, stronger result taken last → outcome result taken last) :
    Takes limit source reading outcome := by
  intro within result last equal
  rcases takes within equal with ⟨taken, passes, holds⟩
  exact ⟨taken, passes, implies result taken last holds⟩

theorem zero (reading : Reading σ α) : Takes 0 source reading outcome :=
  fun within => absurd within (not_within_zero source)

theorem bind {first : Reading σ β} {next : β → Reading σ α}
    {between : β → List Token → σ → Prop} (takes : Takes limit source first between)
    (behind : ∀ value taken middle, between value taken middle →
      Takes (limit - taken.length) middle (next value)
        fun result further last => outcome result (taken ++ further) last) :
    Takes limit source (first >>= next) outcome := by
  intro within result last equal
  cases read : first source with
  | error error =>
      rw [Reading.bind_of_error read] at equal
      cases equal
  | ok pair =>
      rcases pair with ⟨value, middle⟩
      rw [Reading.bind_of_ok read] at equal
      rcases takes within read with ⟨taken, passes, holds⟩
      rcases behind value taken middle holds (within.of_passes passes) equal with
        ⟨further, beyond, reached⟩
      exact ⟨taken ++ further, passes.append beyond, reached⟩

theorem bind_token {first : Reading σ β} {next : β → Reading σ α} {token : β → Token}
    (takes : Takes limit source first fun value taken _ => taken = [token value])
    (behind : ∀ value middle, Takes (limit - 1) middle (next value)
      fun result further last => outcome result (token value :: further) last) :
    Takes limit source (first >>= next) outcome := by
  apply bind takes
  intro value taken middle equal
  subst equal
  exact behind value middle

theorem bind_tokens {first : Reading σ β} {next : β → Reading σ α} {tokens : β → List Token}
    {good : β → σ → Prop}
    (takes : Takes limit source first fun value taken middle =>
      taken = tokens value ∧ good value middle)
    (behind : ∀ value middle, good value middle →
      Takes (limit - (tokens value).length) middle (next value)
        fun result further last => outcome result (tokens value ++ further) last) :
    Takes limit source (first >>= next) outcome := by
  apply bind takes
  intro value taken middle holds
  rcases holds with ⟨equal, good⟩
  subst equal
  exact behind value middle good

theorem bind_offered {first : Reading σ (Option β)} {next : Option β → Reading σ α}
    {tokens : β → List Token} {good : β → σ → Prop}
    (takes : Takes limit source first (Offers tokens good))
    (absent : ∀ middle, Takes limit middle (next none) outcome)
    (present : ∀ value middle, good value middle →
      Takes (limit - (tokens value).length) middle (next (some value))
        fun result further last => outcome result (tokens value ++ further) last) :
    Takes limit source (first >>= next) outcome := by
  apply bind takes
  intro value taken middle holds
  cases value with
  | none =>
      cases holds
      exact absent middle
  | some value =>
      rcases holds with ⟨equal, good⟩
      subst equal
      exact present value middle good

theorem peek {next : PlacedToken → Reading σ α}
    (takes : Takes limit source (next (current source)) outcome) :
    Takes limit source (Grammar.peek >>= next) outcome := takes

theorem take {token : Token} (found : (current source).token = token)
    (inside : token.kind ≠ .endOfText) :
    Takes limit source Grammar.take fun _ taken _ => taken = [token] := by
  subst found
  intro _ result last equal
  cases advanced : advance source with
  | error error =>
      rw [take_of_error advanced] at equal
      cases equal
  | ok next =>
      rw [take_of_advance advanced] at equal
      cases equal
      exact ⟨_, .single inside advanced, rfl⟩

theorem takeIf {next : Bool → Reading σ α} (token : Token) (fixed : token.isFixed)
    (taken : (current source).kind = token.kind → ∀ middle,
      Takes (limit - 1) middle (next true) fun result further last =>
        outcome result (token :: further) last)
    (left : (current source).kind ≠ token.kind → Takes limit source (next false) outcome) :
    Takes limit source (Grammar.takeIf token.kind >>= next) outcome := by
  have takes : Takes limit source (Grammar.takeIf token.kind) fun took taken last =>
      if took then (current source).kind = token.kind ∧ taken = [token]
      else (current source).kind ≠ token.kind ∧ taken = [] ∧ last = source := by
    intro _ took last equal
    by_cases same : (current source).kind = token.kind
    · have inside := Token.kind_ne_endOfText fixed
      rw [← same] at inside
      cases advanced : advance source with
      | error error =>
          rw [takeIf_of_error same advanced] at equal
          cases equal
      | ok next =>
          rw [takeIf_of_advance same advanced] at equal
          cases equal
          have equal := Token.eq_of_kind_eq fixed same
          exact ⟨_, .single inside advanced, same, congrArg (fun token => [token]) equal⟩
    · rw [takeIf_of_ne same] at equal
      cases equal
      exact ⟨[], .stay source, same, rfl, rfl⟩
  apply bind takes
  intro took before middle holds
  cases took with
  | true =>
      rcases holds with ⟨same, rfl⟩
      exact taken same middle
  | false =>
      rcases holds with ⟨different, rfl, rfl⟩
      exact left different

theorem expect (rule : Rule) (token : Token) (fixed : token.isFixed) :
    Takes limit source (Grammar.expect rule token.kind) fun _ taken _ => taken = [token] := by
  apply takeIf token fixed
  · intro _ middle
    exact pure rfl
  · intro _
    exact unexpected rule [token.kind]

theorem expectName (rule : Rule) :
    Takes limit source (Grammar.expectName rule) fun name taken _ =>
      taken = [.name name] := by
  apply peek
  split
  next name found =>
    apply bind_token (take found (by simp [Token.kind]))
    intro _ middle
    exact pure rfl
  · exact unexpected rule [.name]

theorem variableType :
    Takes limit source Grammar.variableType
      (Offers ValueType.tokens fun type _ => type.isVariableType) := by
  apply peek
  split
  next declares =>
    rcases ValueType.exists_of_kind_isVariableType declares with
      ⟨type, named, variableType, written⟩
    have inside : (current source).kind ≠ .endOfText := by
      intro atEnd
      rw [atEnd] at declares
      cases declares
    apply bind_token (take rfl inside)
    intro _ middle
    rw [named]
    exact pure ⟨written.symm, variableType⟩
  · exact pure rfl

theorem required {reading : Reading σ (Option α)} (missing : Position → Error)
    {outcome : Option α → List Token → σ → Prop} (takes : Takes limit source reading outcome) :
    Takes limit source (Grammar.required reading missing) fun result => outcome (some result) := by
  apply peek
  apply bind takes
  intro result taken middle holds
  cases result with
  | none => exact throw _
  | some result =>
      apply pure
      rw [List.append_nil]
      exact holds

section

variable {item : Reading σ (Option α)} {tokens : α → List Token} {good : α → Prop}

theorem itemsBehindCommas (missing : Position → Error)
    (takes : ∀ {limit source}, Takes limit source item (Offers tokens fun result _ => good result))
    (count : Nat) :
    Takes limit source (Grammar.itemsBehindCommas item missing count) fun items taken _ =>
      taken = Token.behindCommas tokens items ∧ ∀ item ∈ items, good item := by
  induction count generalizing limit source with
  | zero => exact pure ⟨rfl, by simp⟩
  | succ count induction =>
      apply takeIf (.symbol .comma) rfl
      · intro _ middle
        apply bind_tokens (required missing takes)
        intro first behind firstGood
        apply bind_tokens induction
        intro rest last restGood
        exact pure ⟨by simp [Token.behindCommas_cons],
          List.forall_mem_cons.mpr ⟨firstGood, restGood⟩⟩
      · intro _
        exact pure ⟨rfl, by simp⟩

theorem separatedItems (missing : Position → Error)
    (takes : ∀ {limit source}, Takes limit source item (Offers tokens fun result _ => good result))
    (count : Nat) :
    Takes limit source (Grammar.separatedItems item missing count) fun items taken _ =>
      taken = Token.separated tokens items ∧ ∀ item ∈ items, good item := by
  apply bind_offered takes
  · intro middle
    exact pure ⟨rfl, by simp⟩
  · intro first middle firstGood
    apply bind_tokens (itemsBehindCommas missing takes count)
    intro rest last restGood
    exact pure ⟨by simp [Token.separated], List.forall_mem_cons.mpr ⟨firstGood, restGood⟩⟩

end

end Takes

end Grammar

end Ducat
