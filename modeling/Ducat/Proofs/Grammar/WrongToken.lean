import Mathlib
import Ducat.Proofs.Grammar.Accepted
import Ducat.Proofs.Grammar.Mirroring.Definition
import Ducat.Proofs.Grammar.Pointing.Definition

/-! Main statement: a syntax error points at the first token that was not consumed. What was
consumed can be continued in each way that the error names, and nothing behind the token matters. -/

namespace Ducat

namespace TokenList

def sequence (list : TokenList) : List PlacedToken :=
  match list.ending with
  | .ok position => list.tokens ++ [⟨.endOfText, position⟩]
  | .error _ => list.tokens

variable {tokens front : List PlacedToken} {ending : Except LexError Position}
  {token wrong : PlacedToken}

@[simp] theorem sequence_cons :
    sequence ⟨token :: tokens, ending⟩ = token :: sequence ⟨tokens, ending⟩ := by
  cases ending <;> rfl

theorem prefix_sequence (begins : front ++ [wrong] <+: sequence ⟨tokens, ending⟩) :
    front ++ [wrong] <+: tokens ∨
      tokens = front ∧ wrong.token = .endOfText ∧ ending = .ok wrong.position := by
  cases ending with
  | error error => exact .inl begins
  | ok position =>
      rcases List.prefix_concat_iff.mp begins with equal | inner
      · rcases List.append_inj' equal rfl with ⟨rfl, last⟩
        cases last
        exact .inr ⟨rfl, rfl, rfl⟩
      · exact .inl inner

theorem prefix_tokens (begins : front ++ [wrong] <+: sequence ⟨tokens, ending⟩) :
    front <+: tokens := by
  rcases prefix_sequence begins with inner | ⟨rfl, _⟩
  · exact (List.prefix_append _ _).trans inner
  · exact List.prefix_refl _

theorem prefix_tokens_of_ne (inside : wrong.kind ≠ .endOfText)
    (begins : front ++ [wrong] <+: sequence ⟨tokens, ending⟩) : front ++ [wrong] <+: tokens := by
  rcases prefix_sequence begins with inner | ⟨_, atEnd, _⟩
  · exact inner
  · exact absurd (congrArg Token.kind atEnd) inside

theorem eq_of_prefix_to_end (inside : ∀ token ∈ tokens, token.kind ≠ .endOfText)
    (atEnd : wrong.kind = .endOfText)
    (begins : front ++ [wrong] <+: sequence ⟨tokens, ending⟩) :
    tokens = front ∧ ending = .ok wrong.position := by
  rcases prefix_sequence begins with inner | ⟨same, _, ended⟩
  · have member := inner.subset (List.mem_append_right _ (List.mem_singleton_self wrong))
    exact absurd atEnd (inside wrong member)
  · exact ⟨same, ended⟩

def cutOff (tokens : List PlacedToken) (fault : LexError) : TokenList := ⟨tokens, .error fault⟩

end TokenList

namespace Grammar

namespace Source

variable {σ : Type} [Source σ] {source other place : σ} {list : TokenList} {taken : List Token}

theorem Lists.exists_sequence_eq (lists : Lists (.ok source) list) :
    ∃ behind, list.sequence = current source :: behind := by
  cases lists with
  | finished atEnd =>
      have last : current source = ⟨.endOfText, (current source).position⟩ :=
        congrArg (fun token => PlacedToken.mk token (current source).position)
          (Token.eq_endOfText_of_kind atEnd)
      rw [last]
      exact ⟨[], rfl⟩
  | further => exact ⟨_, TokenList.sequence_cons⟩

theorem Lists.exists_next {first : PlacedToken} {behind : List PlacedToken}
    (lists : Lists (.ok source) list) (filled : behind ≠ [])
    (begins : first :: behind <+: list.sequence) :
    current source = first ∧ ∃ next rest, advance source = .ok next ∧
      Lists (.ok next) rest ∧ behind <+: rest.sequence := by
  cases lists with
  | finished atEnd =>
      have short : behind.length + 1 ≤ 1 := begins.length_le
      have long := List.length_pos_iff.mpr filled
      omega
  | further inside listsBehind =>
      rw [TokenList.sequence_cons, List.cons_prefix_cons] at begins
      rcases begins with ⟨rfl, begins⟩
      cases advanced : advance source with
      | error error =>
          rw [advanced] at listsBehind
          rw [listsBehind.of_error] at begins
          exact absurd (List.prefix_nil.mp begins) filled
      | ok next =>
          rw [advanced] at listsBehind
          exact ⟨rfl, next, _, rfl, listsBehind, begins⟩

/-- The tokens of a list that are passed on the way to a place. Whatever begins with them leads to
such a place, and nothing less does. -/
structure Consumes (source : σ) (list : TokenList) (consumed : List PlacedToken) (place : σ) :
    Prop where
  begins : consumed ++ [current place] <+: list.sequence
  joint : ∀ {other : σ} {otherList : TokenList}, Lists (.ok other) otherList →
    consumed ++ [current place] <+: otherList.sequence →
      ∃ otherPlace, Joint source other (consumed.map PlacedToken.token) place otherPlace
  breaks : ∀ {other : σ} {fault : LexError}, Lists (.ok other) (.cutOff consumed fault) →
    Breaks fault source other (consumed.map PlacedToken.token)

theorem Consumes.stay (lists : Lists (.ok source) list) : Consumes source list [] source where
  begins := by
    rcases lists.exists_sequence_eq with ⟨behind, split⟩
    exact ⟨behind, split.symm⟩
  joint {other otherList} otherLists begins := by
    rcases otherLists.exists_sequence_eq with ⟨otherBehind, split⟩
    rw [split, List.nil_append, List.cons_prefix_cons] at begins
    exact ⟨other, .stay begins.1.symm⟩
  breaks otherLists := by cases otherLists.of_nil.2

theorem Consumes.step {next : σ} {tokens consumed : List PlacedToken}
    {ending : Except LexError Position} (inside : (current source).kind ≠ .endOfText)
    (advanced : advance source = .ok next)
    (consumes : Consumes next ⟨tokens, ending⟩ consumed place) :
    Consumes source ⟨current source :: tokens, ending⟩ (current source :: consumed) place where
  begins := by
    rw [TokenList.sequence_cons, List.cons_append, List.cons_prefix_cons]
    exact ⟨rfl, consumes.begins⟩
  joint otherLists begins := by
    rcases otherLists.exists_next (by simp) begins with
      ⟨same, otherNext, _, otherAdvanced, otherBehind, otherBegins⟩
    rcases consumes.joint otherBehind otherBegins with ⟨otherPlace, joint⟩
    exact ⟨otherPlace, .step same inside advanced otherAdvanced joint⟩
  breaks {other fault} otherLists := by
    rcases otherLists.of_cons with ⟨same, _, otherBehind⟩
    cases otherAdvanced : advance other with
    | error error =>
        rw [otherAdvanced] at otherBehind
        cases otherBehind.of_error
        exact .last same otherAdvanced
    | ok otherNext =>
        rw [otherAdvanced] at otherBehind
        exact .step same inside advanced otherAdvanced (consumes.breaks otherBehind)

theorem Passes.exists_consumes (passes : Passes source taken place)
    (lists : Lists (.ok source) list) :
    ∃ consumed, consumed.map PlacedToken.token = taken ∧ Consumes source list consumed place := by
  induction passes generalizing list with
  | stay source => exact ⟨[], rfl, .stay lists⟩
  | step inside advanced _ induction =>
      cases lists with
      | finished atEnd => exact absurd atEnd inside
      | further _ behind =>
          rw [advanced] at behind
          rcases induction behind with ⟨consumed, rfl, consumes⟩
          exact ⟨_, rfl, consumes.step inside advanced⟩

end Source

open Source

variable {σ τ : Type} [Source σ] [Source τ] {error : Error}

theorem Error.isLexical_of_isSyntactic (syntactic : error.isSyntactic) :
    error.isLexical = false := by
  cases error with
  | lexical => cases syntactic
  | _ => rfl

section

variable {source : σ} {other : τ} {ending : Except LexError Position} {left limit count : Nat}

theorem program_of_refused (alike : Alike ending left source other) (near : left < limit)
    (enough : left < count) (otherNear : left < bound other) (meant : error.isLexical = false)
    (refused : definitions limit count .empty source = .error error) :
    program other = .error error := by
  have parallel := definitions_mirrors near otherNear enough otherNear .empty alike
  rw [refused] at parallel
  rw [program_eq]
  generalize definitions _ _ _ other = outcome at parallel ⊢
  cases parallel with
  | refused => rfl
  | fault => cases meant

theorem program_of_fault_found {fault : LexError} (alike : Alike (.error fault) left source source)
    (near : left < limit) (enough : left < count) (ownNear : left < bound source)
    (failed : definitions limit count .empty source = .error (.lexical fault)) :
    program source = .error (.lexical fault) := by
  have parallel := definitions_mirrors ownNear near ownNear enough .empty alike
  rw [failed] at parallel
  rw [program_eq]
  generalize definitions _ _ _ source = outcome at parallel ⊢
  cases parallel with
  | refused meant => cases meant
  | fault found =>
      cases found
      rfl

end

theorem definitions_of_program {source : σ} (refused : program source = .error error) :
    definitions (bound source) (bound source) .empty source = .error error := by
  rw [program_eq] at refused
  cases outcome : definitions (bound source) (bound source) .empty source with
  | error found =>
      rw [outcome] at refused
      cases refused
      rfl
  | ok pair =>
      rw [outcome] at refused
      cases refused

theorem program_of_lists {source : σ} {other : τ} {list : TokenList}
    (lists : Lists (.ok source) list) (near : list.tokens.length < bound source)
    (otherLists : Lists (.ok other) list) (otherNear : list.tokens.length < bound other)
    (meant : error.isLexical = false) (refused : program source = .error error) :
    program other = .error error :=
  program_of_refused (.of_lists lists otherLists (List.prefix_refl _) fun _ _ => rfl) near near
    otherNear meant (definitions_of_program refused)

theorem exists_stops_of_refused {source : σ} {list : TokenList}
    (lists : Lists (.ok source) list) (near : list.tokens.length < bound source)
    (meant : error.isLexical = false) (refused : program source = .error error) :
    ∃ taken place, error.PointsAt taken (current place) ∧
      Stops source (definitions (bound source) (bound source) .empty) taken place
        fun _ => .error error := by
  have failed := definitions_of_program refused
  have points : Points (bound source) [] source
      (definitions (bound source) (bound source) .empty) :=
    definitions_points (Nat.le_refl _) .empty (List.forall_mem_nil _)
  rw [← List.length_map PlacedToken.token] at near
  cases points ⟨_, _, lists.leaves, near⟩ with
  | fault lexical =>
      rw [failed] at lexical
      cases lexical
      cases meant
  | given stops =>
      rw [stops.read] at failed
      cases failed
  | refused points stops =>
      rw [stops.read] at failed
      cases failed
      exact ⟨_, _, points, stops⟩

def Refuses (front : List PlacedToken) (error : Error) : Prop :=
  ∀ {σ : Type} [Source σ] (source : σ) (list : TokenList), Lists (.ok source) list →
    list.tokens.length < bound source → front <+: list.sequence → program source = .error error

theorem view?_cutOff {tokens : List PlacedToken} {fault : LexError} {view : TokenList.View}
    (inside : ∀ token ∈ tokens, token.kind ≠ .endOfText)
    (viewed : (TokenList.cutOff tokens fault).view? = .ok view) :
    Lists (.ok view) (.cutOff tokens fault) := by
  rw [← viewed]
  exact TokenList.view?_lists inside

section

variable {view place : TokenList.View} {list : TokenList} {consumed : List PlacedToken}
  {taken : List Token}
  (lists : Lists (.ok view) list) (near : list.tokens.length < bound view)
  (consumes : Consumes view list consumed place)
  (stops : Stops view (definitions (bound view) (bound view) .empty)
    (consumed.map PlacedToken.token) place fun _ => .error error)

include lists near consumes stops

theorem refuses_of_stops (meant : error.isLexical = false) :
    Refuses (consumed ++ [current place]) error := by
  intro σ _ other otherList otherLists otherNear otherBegins
  by_cases atEnd : (current place).kind = .endOfText
  · -- The end of the text comes last in both lists, which are the same therefore.
    rcases TokenList.eq_of_prefix_to_end lists.inside atEnd consumes.begins with ⟨tokens, ending⟩
    rcases TokenList.eq_of_prefix_to_end otherLists.inside atEnd otherBegins with
      ⟨otherTokens, otherEnding⟩
    have same : otherList = list := by
      rw [TokenList.mk.injEq, tokens, ending]
      exact ⟨otherTokens, otherEnding⟩
    rw [same] at otherLists otherNear
    have refused : program view = .error error := by
      rw [program_eq, stops.read]
      rfl
    exact program_of_lists lists near otherLists otherNear meant refused
  · -- A list with a fault right behind the token is refused in the same way, and the other one
    -- begins like it.
    have inner := TokenList.prefix_tokens_of_ne atEnd consumes.begins
    have otherInner := TokenList.prefix_tokens_of_ne atEnd otherBegins
    let cut : TokenList := .cutOff (consumed ++ [current place])
      ⟨.unclassifiable ' ', (current place).position⟩
    have cutLists : Lists cut.view? cut :=
      TokenList.view?_lists fun token member => lists.inside token (inner.subset member)
    cases viewed : cut.view? with
    | error fault =>
        rw [viewed] at cutLists
        have empty := congrArg TokenList.tokens cutLists.of_error
        exact absurd empty (by simp [cut, TokenList.cutOff])
    | ok cutView =>
        rw [viewed] at cutLists
        rcases consumes.joint cutLists (List.prefix_refl _) with ⟨cutPlace, joint⟩
        have alike := Alike.of_lists cutLists otherLists otherInner nofun
        have cutNear := Nat.lt_of_le_of_lt inner.length_le near
        exact program_of_refused alike cutNear cutNear
          (Nat.lt_of_le_of_lt otherInner.length_le otherNear) meant
          (stops.settled cutView cutPlace joint)

/-- All tokens in front of the one at which the program stops are taken. -/
theorem program_of_cutOff {fault : LexError} {cut : TokenList.View}
    (viewed : (TokenList.cutOff consumed fault).view? = .ok cut) :
    program cut = .error (.lexical fault) := by
  have inner := TokenList.prefix_tokens consumes.begins
  have cutLists := view?_cutOff
    (fun token member => lists.inside token (inner.subset member)) viewed
  have alike := Alike.of_lists cutLists cutLists (List.prefix_refl _) nofun
  have cutNear := Nat.lt_of_le_of_lt inner.length_le near
  exact program_of_fault_found alike cutNear cutNear (TokenList.length_lt_of_view? viewed)
    (stops.needed fault cut (consumes.breaks cutLists))

end

end Grammar

namespace Program

open Grammar.Source

variable {currencies : List String} {text : String} {error : Grammar.Error}

theorem exists_lexer_of_refused (meant : error.isLexical = false)
    (refused : ofText currencies text = .error (.grammar error)) :
    ∃ lexer, Lexer.start currencies text >>= Lexer.toSignificant = .ok lexer ∧
      Grammar.program lexer = .error error := by
  cases placed : Lexer.start currencies text >>= Lexer.toSignificant with
  | error found =>
      rcases ofText_of_fault placed with first | later
      · rw [first] at refused
        cases refused
      · rw [later] at refused
        cases refused
        cases meant
  | ok lexer =>
      rw [ofText_of_placed placed] at refused
      cases read : Grammar.program lexer with
      | error found =>
          rw [read] at refused
          cases refused
          exact ⟨lexer, rfl, read⟩
      | ok program =>
          rw [read] at refused
          cases refused

theorem exists_view_of_refused (meant : error.isLexical = false)
    (refused : ofText currencies text = .error (.grammar error)) :
    ∃ view, (TokenList.ofText currencies text).significant.view? = .ok view ∧
      Grammar.program view = .error error := by
  rcases exists_lexer_of_refused meant refused with ⟨lexer, placed, read⟩
  have lists := Lexer.start_lists currencies text
  rw [placed] at lists
  have viewed := TokenList.view?_lists lists.inside
  cases found : (TokenList.ofText currencies text).significant.view? with
  | error fault =>
      rw [found] at viewed
      rw [viewed.of_error] at lists
      cases lists.of_nil.2
  | ok view =>
      rw [found] at viewed
      have near := Lexer.start_length_lt currencies text placed
      have otherNear := TokenList.length_lt_of_view? found
      exact ⟨view, rfl, Grammar.program_of_lists lists near viewed otherNear meant read⟩

theorem ofText_of_refuses {front : List PlacedToken} (filled : front ≠ [])
    (refuses : Grammar.Refuses front error)
    (begins : front <+: (TokenList.ofText currencies text).significant.sequence) :
    ofText currencies text = .error (.grammar error) := by
  have lists := Lexer.start_lists currencies text
  cases placed : Lexer.start currencies text >>= Lexer.toSignificant with
  | error fault =>
      rw [placed] at lists
      rw [lists.of_error] at begins
      exact absurd (List.prefix_nil.mp begins) filled
  | ok lexer =>
      rw [placed] at lists
      have near := Lexer.start_length_lt currencies text placed
      rw [ofText_of_placed placed, refuses lexer _ lists near begins]
      rfl

end Program

namespace Grammar

/-- The error points at the token of the list that comes behind the consumed ones. These are the
tokens that are taken, and the wrong token is the last one that matters. -/
structure Error.PointsInto (error : Error) (list : TokenList) (consumed : List PlacedToken)
    (wrong : PlacedToken) : Prop where
  begins : consumed ++ [wrong] <+: list.sequence
  points : error.PointsAt (consumed.map PlacedToken.token) wrong
  /-- A fault in front of the wrong token is come upon. -/
  taken : ∀ fault view, (TokenList.cutOff consumed fault).view? = .ok view →
    program view = .error (.lexical fault)
  /-- Lists that have the same tokens up to the wrong one are refused for the same reason. -/
  lists : ∀ (other : TokenList) (view : TokenList.View),
    (∀ token ∈ other.tokens, token.kind ≠ .endOfText) → other.view? = .ok view →
      consumed ++ [wrong] <+: other.sequence → program view = .error error
  texts : ∀ currencies text,
    consumed ++ [wrong] <+: (TokenList.ofText currencies text).significant.sequence →
      Program.ofText currencies text = .error (.grammar error)

theorem exists_pointsInto_of_view {error : Error} {list : TokenList}
    {view : TokenList.View} (inside : ∀ token ∈ list.tokens, token.kind ≠ .endOfText)
    (viewed : list.view? = .ok view) (meant : error.isLexical = false)
    (refused : program view = .error error) :
    ∃ consumed wrong, error.PointsInto list consumed wrong := by
  have lists := TokenList.view?_lists inside
  have near := TokenList.length_lt_of_view? viewed
  rw [viewed] at lists
  rcases exists_stops_of_refused lists near meant refused with ⟨taken, place, points, stops⟩
  rcases stops.passes.exists_consumes lists with ⟨consumed, rfl, consumes⟩
  have refuses : Refuses (consumed ++ [place.current]) error :=
    refuses_of_stops lists near consumes stops meant
  refine ⟨consumed, _, consumes.begins, points, ?_, ?_, ?_⟩
  · intro fault cut cutViewed
    exact program_of_cutOff lists near consumes stops cutViewed
  · intro other otherView otherInside otherViewed otherBegins
    have otherLists := TokenList.view?_lists otherInside
    rw [otherViewed] at otherLists
    exact refuses otherView other otherLists (TokenList.length_lt_of_view? otherViewed) otherBegins
  · intro currencies text textBegins
    exact Program.ofText_of_refuses (by simp) refuses textBegins

end Grammar

/-- A syntax error in a list of tokens, or in a text, points at the first token that was not
consumed. -/
theorem syntax_error_points_at_wrong_token {error : Grammar.Error}
    (syntactic : error.isSyntactic) :
    (∀ (list : TokenList) (view : TokenList.View),
      (∀ token ∈ list.tokens, token.kind ≠ .endOfText) → list.view? = .ok view →
        Grammar.program view = .error error →
          ∃ consumed wrong, error.PointsInto list consumed wrong) ∧
    ∀ currencies text, Program.ofText currencies text = .error (.grammar error) →
      ∃ consumed wrong,
        error.PointsInto (TokenList.ofText currencies text).significant consumed wrong := by
  have meant := Grammar.Error.isLexical_of_isSyntactic syntactic
  constructor
  · intro list view inside viewed refused
    exact Grammar.exists_pointsInto_of_view inside viewed meant refused
  · intro currencies text refused
    rcases Program.exists_view_of_refused meant refused with ⟨view, viewed, read⟩
    have inside := (Lexer.start_lists currencies text).inside
    exact Grammar.exists_pointsInto_of_view inside viewed meant read

theorem syntax_error_points_at_wrong_token_of_missing :
    (∃ consumed wrong,
      (Grammar.Error.unexpectedToken .function [.name] .endOfText ⟨1, 4⟩).PointsInto
        ⟨[⟨.keyword .intWord, ⟨1, 1⟩⟩], .ok ⟨1, 4⟩⟩ consumed wrong) ∧
    ∃ consumed wrong,
      (Grammar.Error.unexpectedToken .block [.symbol .semicolon] (.symbol .rightBrace)
          ⟨1, 20⟩).PointsInto
        (TokenList.ofText [] "int f() \x7b return 1 \x7d").significant consumed wrong := by
  have read : Program.ofText [] "int f() \x7b return 1 \x7d" =
      .error (.grammar (.unexpectedToken .block [.symbol .semicolon] (.symbol .rightBrace)
        ⟨1, 20⟩)) := by cbv
  constructor
  · exact (syntax_error_points_at_wrong_token rfl).1 _ _ (by simp [PlacedToken.kind, Token.kind])
      rfl rfl
  · exact (syntax_error_points_at_wrong_token rfl).2 _ _ read

end Ducat
