import Ducat.Proofs.Grammar.Remaining

/-! How far a reading looks: which tokens it takes before it ends, and that nothing behind the next
one matters. -/

namespace Ducat

namespace Grammar

namespace Source

variable {σ : Type} [Source σ]

inductive Joint : σ → σ → List Token → σ → σ → Prop where
  | stay {source other : σ} (same : current other = current source) :
      Joint source other [] source other
  | step {source other next otherNext place otherPlace : σ} {taken : List Token}
      (same : current other = current source) (inside : (current source).kind ≠ .endOfText)
      (advanced : advance source = .ok next) (otherAdvanced : advance other = .ok otherNext)
      (behind : Joint next otherNext taken place otherPlace) :
      Joint source other ((current source).token :: taken) place otherPlace

/-- The other source has the same tokens to take, but a fault right behind them. -/
inductive Breaks (fault : LexError) : σ → σ → List Token → Prop where
  | last {source other : σ} (same : current other = current source)
      (failed : advance other = .error fault) :
      Breaks fault source other [(current source).token]
  | step {source other next otherNext : σ} {taken : List Token}
      (same : current other = current source) (inside : (current source).kind ≠ .endOfText)
      (advanced : advance source = .ok next) (otherAdvanced : advance other = .ok otherNext)
      (behind : Breaks fault next otherNext taken) :
      Breaks fault source other ((current source).token :: taken)

variable {source other place otherPlace : σ} {taken : List Token} {fault : LexError}

theorem Breaks.current_eq (breaks : Breaks fault source other taken) :
    current other = current source := by
  cases breaks <;> assumption

theorem Joint.current_eq (joint : Joint source other taken place otherPlace) :
    current other = current source := by
  cases joint <;> assumption

theorem Passes.joint (passes : Passes source taken place) :
    Joint source source taken place place := by
  induction passes with
  | stay => exact .stay rfl
  | step inside advanced _ induction => exact .step rfl inside advanced advanced induction

theorem Joint.split {middle : σ} {further : List Token} (passes : Passes source taken middle)
    (joint : Joint source other (taken ++ further) place otherPlace) :
    ∃ otherMiddle, Joint source other taken middle otherMiddle ∧
      Joint middle otherMiddle further place otherPlace := by
  induction passes generalizing other with
  | stay => exact ⟨other, .stay joint.current_eq, joint⟩
  | step inside advanced _ induction =>
      cases joint with
      | step same _ again otherAdvanced behind =>
          cases advanced.symm.trans again
          rcases induction behind with ⟨otherMiddle, first, second⟩
          exact ⟨otherMiddle, .step same inside advanced otherAdvanced first, second⟩

theorem Breaks.split {middle : σ} {further : List Token} (passes : Passes source taken middle)
    (breaks : Breaks fault source other (taken ++ further)) :
    further = [] ∧ Breaks fault source other taken ∨
      ∃ otherMiddle, Joint source other taken middle otherMiddle ∧
        Breaks fault middle otherMiddle further := by
  induction passes generalizing other with
  | stay => exact .inr ⟨other, .stay breaks.current_eq, breaks⟩
  | @step source next middle taken inside advanced _ induction =>
      rw [List.cons_append] at breaks
      generalize whole : taken ++ further = tokens at breaks
      cases breaks with
      | last same failed =>
          rcases List.append_eq_nil_iff.mp whole with ⟨rfl, rfl⟩
          exact .inl ⟨rfl, .last same failed⟩
      | step same _ again otherAdvanced behind =>
          subst whole
          cases advanced.symm.trans again
          rcases induction behind with ⟨ended, start⟩ | ⟨otherMiddle, start, rest⟩
          · exact .inl ⟨ended, .step same inside advanced otherAdvanced start⟩
          · exact .inr ⟨otherMiddle, .step same inside advanced otherAdvanced start, rest⟩

theorem Leaves.unique {ending : Except LexError Position} {tokens others : List Token}
    (leaves : Leaves ending source tokens) (otherLeaves : Leaves ending source others) :
    tokens = others := by
  induction leaves generalizing others with
  | finished atEnd => exact (otherLeaves.of_atEnd atEnd).1.symm
  | faulty inside failed =>
      cases otherLeaves with
      | finished atEnd => exact absurd atEnd inside
      | faulty => rfl
      | further _ advanced => cases failed.symm.trans advanced
  | further inside advanced _ induction =>
      cases otherLeaves with
      | finished atEnd => exact absurd atEnd inside
      | faulty _ failed => cases failed.symm.trans advanced
      | further _ again behind =>
          cases advanced.symm.trans again
          rw [induction behind]

theorem Passes.unique {limit : Nat} {others : List Token} (within : Within limit source)
    (passes : Passes source taken place) (otherPasses : Passes source others place) :
    taken = others := by
  rcases within with ⟨ending, tokens, leaves, _⟩
  rcases Leaves.of_passes passes leaves with ⟨rest, split, left⟩
  rcases Leaves.of_passes otherPasses leaves with ⟨otherRest, otherSplit, otherLeft⟩
  rw [left.unique otherLeft, otherSplit] at split
  exact (List.append_cancel_right split).symm

end Source

open Source

variable {σ α β : Type} [Source σ]

/-- The reading takes the tokens, of which it needs all, and then ends with `outcome` where it has
come. Nothing behind the token that is the next one there makes a difference to it. -/
structure Stops (source : σ) (reading : Reading σ α) (taken : List Token) (place : σ)
    (outcome : σ → Except Error (α × σ)) : Prop where
  passes : Passes source taken place
  settled : ∀ other otherPlace, Joint source other taken place otherPlace →
    reading other = outcome otherPlace
  needed : ∀ fault other, Breaks fault source other taken →
    reading other = .error (.lexical fault)

namespace Stops

variable {source place : σ} {taken : List Token} {outcome : σ → Except Error (α × σ)}

theorem congr {reading other : Reading σ α} (stops : Stops source reading taken place outcome)
    (same : ∀ place, current place = current source → other place = reading place) :
    Stops source other taken place outcome where
  passes := stops.passes
  settled next last joint :=
    (same next joint.current_eq).trans (stops.settled next last joint)
  needed fault next breaks :=
    (same next breaks.current_eq).trans (stops.needed fault next breaks)

theorem read {reading : Reading σ α} (stops : Stops source reading taken place outcome) :
    reading source = outcome place :=
  stops.settled source place stops.passes.joint

variable {first : Reading σ β} {next : β → Reading σ α}

theorem bind_error {error : Error} (stops : Stops source first taken place fun _ => .error error) :
    Stops source (first >>= next) taken place fun _ => .error error where
  passes := stops.passes
  settled other last joint := Reading.bind_of_error (stops.settled other last joint)
  needed fault other breaks := Reading.bind_of_error (stops.needed fault other breaks)

theorem bind {value : β} {further : List Token} {last : σ}
    (stops : Stops source first taken place fun last => .ok (value, last))
    (behind : Stops place (next value) further last outcome) :
    Stops source (first >>= next) (taken ++ further) last outcome where
  passes := stops.passes.append behind.passes
  settled other otherLast joint := by
    rcases joint.split stops.passes with ⟨otherMiddle, start, rest⟩
    exact (Reading.bind_of_ok (stops.settled other otherMiddle start)).trans
      (behind.settled otherMiddle otherLast rest)
  needed fault other breaks := by
    rcases breaks.split stops.passes with ⟨_, start⟩ | ⟨otherMiddle, start, rest⟩
    · exact Reading.bind_of_error (stops.needed fault other start)
    · exact (Reading.bind_of_ok (stops.settled other otherMiddle start)).trans
        (behind.needed fault otherMiddle rest)

theorem pure (result : α) (source : σ) :
    Stops source (Pure.pure result) [] source fun last => .ok (result, last) where
  passes := .stay source
  settled other last joint := by
    cases joint
    rfl
  needed fault other breaks := by cases breaks

theorem throw (error : Error) (source : σ) :
    Stops source (MonadExcept.throw error : Reading σ α) [] source fun _ => .error error where
  passes := .stay source
  settled _ _ _ := rfl
  needed fault other breaks := by cases breaks

theorem take (inside : (current source).kind ≠ .endOfText) (advanced : advance source = .ok place) :
    Stops source Grammar.take [(current source).token] place
      fun last => .ok ((current source).token, last) where
  passes := .single inside advanced
  settled other last joint := by
    cases joint with
    | step same _ again otherAdvanced behind =>
        cases behind
        rw [take_of_advance otherAdvanced, same]
  needed fault other breaks := by
    cases breaks with
    | last _ failed => exact take_of_error failed
    | step _ _ _ _ behind => cases behind

end Stops

end Grammar

end Ducat
