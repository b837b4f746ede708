import Ducat.Grammar.Reading

/-! The tokens that are left in a source, and those that lie between two places in it. -/

namespace Ducat

namespace Token

def isFixed : Token → Bool
  | keyword _ => true
  | symbol _ => true
  | _ => false

theorem eq_endOfText_of_kind {token : Token} (kind : token.kind = .endOfText) :
    token = .endOfText := by
  cases token <;> cases kind
  rfl

theorem eq_of_kind_eq {token other : Token} (fixed : token.isFixed)
    (equal : other.kind = token.kind) : other = token := by
  cases token with
  | keyword word =>
      cases other <;> cases equal
      rfl
  | symbol mark =>
      cases other <;> cases equal
      rfl
  | _ => cases fixed

theorem eq_symbol_of_kind {token : Token} {mark : Symbol} (kind : token.kind = .symbol mark) :
    token = .symbol mark :=
  eq_of_kind_eq rfl kind

theorem kind_ne_endOfText {token : Token} (fixed : token.isFixed) : token.kind ≠ .endOfText := by
  cases token <;> simp [isFixed, kind] at fixed ⊢

end Token

namespace Grammar

namespace Source

variable {σ : Type} [Source σ]

inductive Passes : σ → List Token → σ → Prop where
  | stay (source : σ) : Passes source [] source
  | step {source next last : σ} {taken : List Token}
      (inside : (current source).kind ≠ .endOfText) (advanced : advance source = .ok next)
      (behind : Passes next taken last) : Passes source ((current source).token :: taken) last

/-- The tokens that are left up to the end of the text, or up to a fault behind the last one. -/
inductive Leaves (ending : Except LexError Position) : σ → List Token → Prop where
  | finished {source : σ} (atEnd : (current source).kind = .endOfText)
      (found : ending = .ok (current source).position) : Leaves ending source []
  | faulty {source : σ} {error : LexError} (inside : (current source).kind ≠ .endOfText)
      (failed : advance source = .error error) (found : ending = .error error) :
      Leaves ending source [(current source).token]
  | further {source next : σ} {tokens : List Token}
      (inside : (current source).kind ≠ .endOfText) (advanced : advance source = .ok next)
      (behind : Leaves ending next tokens) :
      Leaves ending source ((current source).token :: tokens)

def Within (limit : Nat) (source : σ) : Prop :=
  ∃ ending tokens, Leaves ending source tokens ∧ tokens.length < limit

theorem Passes.append {first middle last : σ} {taken further : List Token}
    (before : Passes first taken middle) (behind : Passes middle further last) :
    Passes first (taken ++ further) last := by
  induction before with
  | stay => exact behind
  | step inside advanced _ induction => exact .step inside advanced (induction behind)

theorem Passes.single {source next : σ} (inside : (current source).kind ≠ .endOfText)
    (advanced : advance source = .ok next) :
    Passes source [(current source).token] next :=
  .step inside advanced (.stay next)

variable {ending : Except LexError Position}

theorem Leaves.of_passes {first last : σ} {taken tokens : List Token}
    (passes : Passes first taken last) (leaves : Leaves ending first tokens) :
    ∃ rest, tokens = taken ++ rest ∧ Leaves ending last rest := by
  induction passes generalizing tokens with
  | stay => exact ⟨tokens, rfl, leaves⟩
  | step inside advanced _ induction =>
      cases leaves with
      | finished atEnd => exact absurd atEnd inside
      | faulty _ failed =>
          rw [advanced] at failed
          cases failed
      | further _ other behind =>
          rw [advanced] at other
          cases other
          rcases induction behind with ⟨rest, rfl, left⟩
          exact ⟨rest, rfl, left⟩

theorem Leaves.of_atEnd {source : σ} {tokens : List Token} (leaves : Leaves ending source tokens)
    (atEnd : (current source).kind = .endOfText) :
    tokens = [] ∧ ending = .ok (current source).position := by
  cases leaves with
  | finished _ found => exact ⟨rfl, found⟩
  | faulty inside => exact absurd atEnd inside
  | further inside => exact absurd atEnd inside

theorem Within.of_passes {first last : σ} {taken : List Token} {limit : Nat}
    (passes : Passes first taken last) (within : Within limit first) :
    Within (limit - taken.length) last := by
  rcases within with ⟨ending, tokens, leaves, fewer⟩
  rcases Leaves.of_passes passes leaves with ⟨rest, rfl, left⟩
  rw [List.length_append] at fewer
  exact ⟨ending, rest, left, by omega⟩

theorem not_within_zero (source : σ) : ¬ Within 0 source := by
  intro ⟨_, _, _, fewer⟩
  exact absurd fewer (Nat.not_lt_zero _)

end Source

namespace Reading

variable {σ α β : Type} {first : Reading σ β} {next : β → Reading σ α} {source : σ}

theorem bind_of_error {error : Error} (failed : first source = .error error) :
    (first >>= next) source = .error error := by
  change (first source >>= fun (value, middle) => next value middle) = _
  rw [failed]
  rfl

theorem bind_of_ok {value : β} {middle : σ} (read : first source = .ok (value, middle)) :
    (first >>= next) source = next value middle := by
  change (first source >>= fun (value, middle) => next value middle) = _
  rw [read]
  rfl

end Reading

section

variable {σ : Type} [Source σ] {source next : σ} {error : LexError} {kind : TokenKind}

theorem take_of_advance (advanced : Source.advance source = .ok next) :
    take source = .ok ((Source.current source).token, next) := by
  simp only [take, bind, StateT.bind, get, getThe, MonadStateOf.get, StateT.get, Except.bind, pure,
    Except.pure, advanced]
  rfl

theorem take_of_error (failed : Source.advance source = .error error) :
    take source = .error (.lexical error) := by
  simp only [take, bind, StateT.bind, get, getThe, MonadStateOf.get, StateT.get, Except.bind, pure,
    Except.pure, failed]
  rfl

theorem takeIf_apply (kind : TokenKind) (source : σ) :
    takeIf kind source =
      if (Source.current source).kind = kind then (take >>= fun _ => pure true) source
      else .ok (false, source) := by
  change (if (Source.current source).kind = kind then
    (take >>= fun _ => pure true : Reading σ Bool) else pure false) source = _
  split <;> rfl

theorem takeIf_of_advance (same : (Source.current source).kind = kind)
    (advanced : Source.advance source = .ok next) : takeIf kind source = .ok (true, next) := by
  rw [takeIf_apply, if_pos same, Reading.bind_of_ok (take_of_advance advanced)]
  rfl

theorem takeIf_of_error (same : (Source.current source).kind = kind)
    (failed : Source.advance source = .error error) :
    takeIf kind source = .error (.lexical error) := by
  rw [takeIf_apply, if_pos same]
  exact Reading.bind_of_error (take_of_error failed)

theorem takeIf_of_ne (different : (Source.current source).kind ≠ kind) :
    takeIf kind source = .ok (false, source) := by
  rw [takeIf_apply, if_neg different]

end

end Grammar

end Ducat
