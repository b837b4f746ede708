import Ducat.Proofs.Grammar.Remaining
import Ducat.Proofs.Grammar.Shape

/-! What a reading gives wherever certain tokens are left. -/

namespace Ducat

namespace Grammar

open Source

variable {σ α β : Type} [Source σ]

/-- If exactly `tokens` are left in a text without faults, then `reading` gives `result` and leaves
`rest`. -/
def Gives (reading : Reading σ α) (tokens : List Token) (result : α) (rest : List Token) : Prop :=
  ∀ ⦃source : σ⦄ ⦃position : Position⦄, Leaves (.ok position) source tokens →
    ∃ last, Leaves (.ok position) last rest ∧ reading source = .ok (result, last)

theorem Source.Leaves.token_eq {source : σ} {position : Position} {tokens : List Token}
    (leaves : Leaves (.ok position) source tokens) :
    (current source).token = Token.next tokens := by
  cases leaves with
  | finished atEnd => exact Token.eq_endOfText_of_kind atEnd
  | faulty _ _ found => cases found
  | further => rfl

theorem Source.Leaves.advance {source : σ} {position : Position} {token : Token}
    {rest : List Token} (leaves : Leaves (.ok position) source (token :: rest)) :
    ∃ next, Source.advance source = .ok next ∧ Leaves (.ok position) next rest := by
  cases leaves with
  | faulty _ _ found => cases found
  | further _ advanced behind => exact ⟨_, advanced, behind⟩

namespace Gives

variable {tokens rest : List Token} {result : α}

theorem pure (result : α) (tokens : List Token) :
    Gives (Pure.pure result : Reading σ α) tokens result tokens :=
  fun _ _ leaves => ⟨_, leaves, rfl⟩

theorem bind {first : Reading σ β} {following : β → Reading σ α} {value : β}
    {between : List Token} (gives : Gives first tokens value between)
    (behind : Gives (following value) between result rest) :
    Gives (first >>= following) tokens result rest := by
  intro source position leaves
  rcases gives leaves with ⟨middle, left, read⟩
  rcases behind left with ⟨last, finally_, finished⟩
  exact ⟨last, finally_, (Reading.bind_of_ok read).trans finished⟩

theorem peek {following : PlacedToken → Reading σ α}
    (gives : ∀ placed, placed.token = Token.next tokens →
      Gives (following placed) tokens result rest) :
    Gives (Grammar.peek >>= following) tokens result rest :=
  fun _ _ leaves => gives _ leaves.token_eq leaves

theorem take (token : Token) (rest : List Token) :
    Gives (Grammar.take : Reading σ Token) (token :: rest) token rest := by
  intro source position leaves
  rcases leaves.advance with ⟨next, advanced, behind⟩
  refine ⟨next, behind, ?_⟩
  rw [take_of_advance advanced, leaves.token_eq, Token.next_cons]

theorem takeIf (token : Token) (rest : List Token) :
    Gives (Grammar.takeIf token.kind : Reading σ Bool) (token :: rest) true rest := by
  intro source position leaves
  rcases leaves.advance with ⟨next, advanced, behind⟩
  exact ⟨next, behind, takeIf_of_advance (congrArg Token.kind leaves.token_eq) advanced⟩

theorem takeIf_of_ne {kind : TokenKind} (different : (Token.next tokens).kind ≠ kind) :
    Gives (Grammar.takeIf kind : Reading σ Bool) tokens false tokens := by
  intro source position leaves
  rw [← leaves.token_eq] at different
  exact ⟨source, leaves, Grammar.takeIf_of_ne different⟩

theorem expect (rule : Rule) (token : Token) (rest : List Token) :
    Gives (Grammar.expect rule token.kind : Reading σ Unit) (token :: rest) () rest :=
  bind (takeIf token rest) (pure () rest)

theorem expectName (rule : Rule) (name : String) (rest : List Token) :
    Gives (Grammar.expectName rule : Reading σ String) (.name name :: rest) name rest := by
  apply peek
  intro placed same
  rw [same]
  exact bind (take _ rest) (pure name rest)

theorem variableType {type : ValueType} (variableType : type.isVariableType)
    (rest : List Token) :
    Gives (Grammar.variableType : Reading σ (Option ValueType)) (type.tokens ++ rest)
      (some type) rest := by
  rcases ValueType.exists_of_isVariableType variableType with ⟨token, written, declares, named⟩
  rw [written, List.singleton_append]
  apply peek
  intro placed same
  change placed.token = token at same
  rw [PlacedToken.kind, same, if_pos declares, named]
  exact bind (take token rest) (pure _ rest)

theorem variableType_none (other : (Token.next tokens).kind.isVariableType = false) :
    Gives (Grammar.variableType : Reading σ (Option ValueType)) tokens none tokens := by
  apply peek
  intro placed same
  rw [PlacedToken.kind, same, other]
  exact pure none tokens

theorem required {reading : Reading σ (Option α)} (missing : Position → Error)
    (gives : Gives reading tokens (some result) rest) :
    Gives (Grammar.required reading missing) tokens result rest := by
  apply peek
  intro placed _
  exact bind gives (pure result rest)

section

variable {item : Reading σ (Option α)} {written : α → List Token} {bound : Nat}

theorem itemsBehindCommas (missing : Position → Error) {items : List α} {count : Nat}
    (gives : ∀ one ∈ items, ∀ rest, (written one ++ rest).length < bound →
      Token.next rest = .symbol .comma ∨ Token.next rest = .symbol .rightBracket →
        Gives item (written one ++ rest) (some one) rest)
    (enough : items.length ≤ count) (rest : List Token)
    (fewer : (Token.behindCommas written items ++ .symbol .rightBracket :: rest).length ≤ bound) :
    Gives (Grammar.itemsBehindCommas item missing count)
      (Token.behindCommas written items ++ .symbol .rightBracket :: rest) items
      (.symbol .rightBracket :: rest) := by
  induction items generalizing count with
  | nil =>
      have noComma : (Token.next (Token.behindCommas written [] ++
          .symbol .rightBracket :: rest)).kind ≠ .symbol .comma := by
        simp [Token.behindCommas, Token.kind]
      cases count with
      | zero => exact pure [] _
      | succ count => exact bind (takeIf_of_ne noComma) (pure [] _)
  | cons first others induction =>
      cases count with
      | zero => cases enough
      | succ count =>
          rw [Token.behindCommas_cons] at fewer ⊢
          rw [List.cons_append, List.append_assoc] at fewer ⊢
          rw [List.length_cons] at fewer enough
          have shorter := fewer
          rw [List.length_append] at shorter
          apply bind (takeIf (.symbol .comma) _)
          refine bind (required missing (gives first (List.mem_cons_self ..) _ fewer ?_)) ?_
          · cases others with
            | nil => exact .inr rfl
            | cons => exact .inl rfl
          · have others_gives : ∀ one ∈ others, _ := fun one listed =>
              gives one (List.mem_cons_of_mem _ listed)
            exact bind (induction others_gives (by omega) (by omega)) (pure _ _)

theorem separatedItems (missing : Position → Error) {items : List α} {count : Nat}
    (gives : ∀ one ∈ items, ∀ rest, (written one ++ rest).length < bound →
      Token.next rest = .symbol .comma ∨ Token.next rest = .symbol .rightBracket →
        Gives item (written one ++ rest) (some one) rest)
    (none : ∀ rest, Gives item (.symbol .rightBracket :: rest) none (.symbol .rightBracket :: rest))
    (enough : items.length ≤ count) (rest : List Token)
    (fewer : (Token.separated written items ++ .symbol .rightBracket :: rest).length < bound) :
    Gives (Grammar.separatedItems item missing count)
      (Token.separated written items ++ .symbol .rightBracket :: rest) items
      (.symbol .rightBracket :: rest) := by
  cases items with
  | nil => exact bind (none rest) (pure [] _)
  | cons first others =>
      rw [Token.separated, List.append_assoc] at fewer ⊢
      rw [List.length_cons] at enough
      refine bind (gives first (List.mem_cons_self ..) _ fewer ?_) ?_
      · cases others with
        | nil => exact .inr rfl
        | cons => exact .inl rfl
      · have shorter := fewer
        rw [List.length_append] at shorter
        have others_gives : ∀ one ∈ others, _ := fun one listed =>
          gives one (List.mem_cons_of_mem _ listed)
        have others_enough : others.length ≤ count := by omega
        exact bind (itemsBehindCommas missing others_gives others_enough rest (by omega)) (pure _ _)

end

end Gives

end Grammar

end Ducat
