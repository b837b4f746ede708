import Mathlib.Data.List.Induction
import Mathlib.Data.List.Nodup
import Mathlib.Data.List.Perm.Basic
import Ducat.Proofs.Grammar.RoundTrip

/-! Definitions that are put one after the other. Main statement: if their names are different, then
they make up the same program in every order, and otherwise they are rejected in every order. -/

namespace Ducat

namespace Grammar

open Source

variable {σ α β : Type} [Source σ]

def Fails (reading : Reading σ α) (tokens : List Token) (such : Error → Prop) : Prop :=
  ∀ ⦃source : σ⦄ ⦃position : Position⦄, Leaves (.ok position) source tokens →
    ∃ error, reading source = .error error ∧ such error

namespace Fails

variable {tokens between : List Token} {such : Error → Prop}

theorem throw {error : Error} (holds : such error) (tokens : List Token) :
    Fails (throw error : Reading σ α) tokens such :=
  fun _ _ _ => ⟨error, rfl, holds⟩

theorem peek {following : PlacedToken → Reading σ α}
    (fails : ∀ placed, placed.token = Token.next tokens →
      Fails (following placed) tokens such) :
    Fails (Grammar.peek >>= following) tokens such :=
  fun _ _ leaves => fails _ leaves.token_eq leaves

theorem behind {first : Reading σ β} {following : β → Reading σ α} {value : β}
    (gives : Gives first tokens value between) (fails : Fails (following value) between such) :
    Fails (first >>= following) tokens such := by
  intro source position leaves
  rcases gives leaves with ⟨middle, left, read⟩
  rcases fails left with ⟨error, failed, holds⟩
  exact ⟨error, (Reading.bind_of_ok read).trans failed, holds⟩

end Fails

inductive Error.Repeats (definitions : List Definition) : Error → Prop where
  | duplicateFunction {name : String} {position : Position}
      (several : 2 ≤ (definitions.map Definition.name).count name) :
      Error.Repeats definitions (.duplicateFunction name position)

theorem Error.Repeats.of_perm {definitions others : List Definition} {error : Error}
    (repeats : error.Repeats others) (perm : others.Perm definitions) :
    error.Repeats definitions := by
  cases repeats with
  | duplicateFunction several =>
      rw [(perm.map Definition.name).count_eq] at several
      exact .duplicateFunction several

/-- The first definition whose name is known by then is rejected. -/
theorem definitions_fails {limit count : Nat} {program : Program} {known further : List Definition}
    (listing : program.IsListing known)
    (repeated : ¬ ((known ++ further).map Definition.name).Nodup)
    (fits : ∀ definition ∈ further, definition.Fits)
    (enough : (further.flatMap Definition.tokens).length ≤ count)
    (withinLimit : (further.flatMap Definition.tokens).length ≤ limit) :
    Fails (definitions limit count program : Reading σ _) (further.flatMap Definition.tokens)
      (Error.Repeats (known ++ further)) := by
  induction further generalizing program known count with
  | nil =>
      rw [List.append_nil] at repeated
      exact absurd listing.distinct repeated
  | cons first others induction =>
      rw [List.flatMap_cons] at enough withinLimit ⊢
      have positive := List.length_pos_iff.mpr first.tokens_ne_nil
      have lengths := enough
      rw [List.length_append] at lengths
      rw [List.forall_mem_cons] at fits
      cases count with
      | zero => omega
      | succ count =>
          apply Fails.peek
          intro placed same
          have inside := next_definition_ne fits.1 (others.flatMap Definition.tokens)
          rw [← same] at inside
          rw [PlacedToken.kind, if_neg inside]
          apply Fails.behind (definition_gives fits.1 _ withinLimit)
          change Fails (if (program.definition? first.name).isSome then _ else _) _ _
          cases found : program.definition? first.name with
          | some earlier =>
              have member : first.name ∈ known.map Definition.name := by
                by_contra absent
                rw [(listing.definition?_eq_none_iff first.name).mpr absent] at found
                cases found
              have once := List.count_pos_iff.mpr member
              have several : 2 ≤ ((known ++ first :: others).map Definition.name).count
                  first.name := by
                rw [List.map_append, List.count_append, List.map_cons, List.count_cons_self]
                omega
              exact .throw (.duplicateFunction several) _
          | none =>
              have others_within := withinLimit
              rw [List.length_append] at others_within
              rw [List.append_cons] at repeated ⊢
              exact induction (listing.insert found) repeated fits.2 (by omega) (by omega)

theorem program_of_repeated {definitions : List Definition}
    (repeated : ¬ (definitions.map Definition.name).Nodup)
    (fits : ∀ definition ∈ definitions, definition.Fits) {source : σ} {position : Position}
    (leaves : Leaves (.ok position) source (definitions.flatMap Definition.tokens))
    (enough : (definitions.flatMap Definition.tokens).length < bound source) :
    ∃ error, Grammar.program source = .error error ∧ error.Repeats definitions := by
  have fails : Fails (Grammar.definitions (bound source) (bound source) .empty : Reading σ _)
      (definitions.flatMap Definition.tokens) (Error.Repeats ([] ++ definitions)) :=
    definitions_fails .empty repeated fits (Nat.le_of_lt enough) (Nat.le_of_lt enough)
  rcases fails leaves with ⟨error, failed, repeats⟩
  have ran : Grammar.program source =
      (Grammar.definitions (bound source) (bound source) .empty source).map Prod.fst := rfl
  rw [ran, failed]
  exact ⟨error, rfl, repeats⟩

end Grammar

namespace Program

variable {currencies : List String} {program other : Program} {definitions : List Definition}

namespace IsListing

theorem perm {others : List Definition} (first : program.IsListing definitions)
    (second : program.IsListing others) : definitions.Perm others := by
  rw [List.perm_ext_iff_of_nodup (.of_map _ first.distinct) (.of_map _ second.distinct)]
  intro definition
  have left := first.known definition.name definition
  have right := second.known definition.name definition
  rw [eq_self, and_true] at left right
  rw [← left, right]

theorem of_perm {others : List Definition} (listing : program.IsListing definitions)
    (perm : others.Perm definitions) : program.IsListing others where
  distinct := (perm.map Definition.name).nodup_iff.mpr listing.distinct
  known name definition := by rw [listing.known, perm.mem_iff]

end IsListing

theorem exists_isListing (distinct : (definitions.map Definition.name).Nodup) :
    ∃ program : Program, program.IsListing definitions := by
  induction definitions using List.reverseRecOn with
  | nil => exact ⟨empty, .empty⟩
  | append_singleton definitions last induction =>
      rw [List.map_append, List.nodup_append] at distinct
      rcases induction distinct.1 with ⟨program, listing⟩
      refine ⟨program.insert last, listing.insert ?_⟩
      rw [listing.definition?_eq_none_iff]
      intro member
      exact distinct.2.2 _ member _ (by simp) rfl

def Defines (currencies : List String) (tokens : List Token) (definition : Definition) : Prop :=
  ∃ text, (TokenList.ofText currencies text).Spells tokens ∧
    ofText currencies text = .ok (empty.insert definition)

/-- There is a text with exactly these tokens, and each one is read with such an outcome. -/
structure ReadsAs (currencies : List String) (tokens : List Token)
    (such : Except Failure Program → Prop) : Prop where
  spelled : ∃ text, (TokenList.ofText currencies text).Spells tokens
  read : ∀ text, (TokenList.ofText currencies text).Spells tokens → such (ofText currencies text)

namespace Defines

variable {tokens : List Token} {definition : Definition}

theorem fits (defines : Defines currencies tokens definition) :
    definition.Fits ∧ tokens = definition.tokens := by
  rcases defines with ⟨text, spells, accepted⟩
  rcases exists_lexer_of_ofText accepted with ⟨lexer, read, leaves, fewer⟩
  rcases Grammar.listing_of_program leaves fewer read with ⟨definitions, listing, fits, written, _⟩
  have single : (empty.insert definition).IsListing [definition] := IsListing.empty.insert rfl
  rw [List.perm_singleton.mp (listing.perm single)] at fits written
  rw [spells.significant, List.flatMap_singleton] at written
  exact ⟨fits definition (List.mem_singleton_self _), written⟩

theorem exists_writtenAs (defines : Defines currencies tokens definition) :
    ∀ token ∈ tokens, ∃ characters, token.WrittenAs currencies characters := by
  rcases defines with ⟨text, spells, _⟩
  intro token member
  rw [← spells.significant] at member
  rcases List.mem_map.mp member with ⟨placed, kept, rfl⟩
  exact TokenList.exists_writtenAs_of_mem_ofText (List.mem_of_mem_filter kept)

theorem of_fits (fits : definition.Fits)
    (spellable : ∀ token ∈ definition.tokens, token.IsSpellable currencies) :
    Defines currencies definition.tokens definition := by
  rcases TokenList.exists_text_of_spellable fits.all_isWritten spellable with ⟨text, spells⟩
  have single : (empty.insert definition).IsListing [definition] := IsListing.empty.insert rfl
  rw [← List.flatMap_singleton Definition.tokens] at spells
  exact ⟨text, by simpa using spells, ofText_of_spells single (by simpa using fits) spells⟩

end Defines

variable {parts : List (List Token)}

theorem fits_of_defines (defines : List.Forall₂ (Defines currencies) parts definitions) :
    (∀ definition ∈ definitions, definition.Fits) ∧
      parts.flatten = definitions.flatMap Definition.tokens ∧
      ∀ token ∈ parts.flatten, ∃ characters, token.WrittenAs currencies characters := by
  induction defines with
  | nil => exact ⟨List.forall_mem_nil _, rfl, List.forall_mem_nil _⟩
  | cons first _ induction =>
      rcases induction with ⟨fits, written, forms⟩
      refine ⟨List.forall_mem_cons.mpr ⟨first.fits.1, fits⟩, ?_, ?_⟩
      · rw [List.flatten_cons, List.flatMap_cons, written, first.fits.2]
      · rw [List.flatten_cons, List.forall_mem_append]
        exact ⟨first.exists_writtenAs, forms⟩

theorem ReadsAs.of_defines (defines : List.Forall₂ (Defines currencies) parts definitions)
    {such : Except Failure Program → Prop}
    (read : ∀ text, (TokenList.ofText currencies text).Spells
      (definitions.flatMap Definition.tokens) → such (ofText currencies text)) :
    ReadsAs currencies parts.flatten such := by
  rcases fits_of_defines defines with ⟨fits, written, forms⟩
  rw [written] at forms ⊢
  refine ⟨TokenList.exists_text_of_writtenAs ?_ forms, read⟩
  rw [List.all_flatMap, List.all_eq_true]
  intro definition listed
  exact (fits definition listed).all_isWritten

theorem ofText_of_repeated (fits : ∀ definition ∈ definitions, definition.Fits)
    (repeated : ¬ (definitions.map Definition.name).Nodup) {text : String}
    (spells : (TokenList.ofText currencies text).Spells (definitions.flatMap Definition.tokens)) :
    ∃ error : Grammar.Error, ofText currencies text = .error (.grammar error) ∧
      error.Repeats definitions := by
  rcases exists_lexer_of_spells spells with ⟨lexer, position, placed, leaves, fewer⟩
  rcases Grammar.program_of_repeated repeated fits leaves fewer with ⟨error, failed, repeats⟩
  refine ⟨error, ?_, repeats⟩
  rw [ofText_of_placed placed, failed]
  rfl

/-- Token sequences that are read as one definition each are put one after the other. With different
names they make up one program, whatever their order. Otherwise they are rejected in every order,
for a name that occurs several times. -/
theorem definitions_in_any_order
    (defines : List.Forall₂ (Defines currencies) parts definitions) :
    ((definitions.map Definition.name).Nodup →
      ∃ program : Program, program.IsListing definitions ∧
        ∀ order : List (List Token), order.Perm parts →
          ReadsAs currencies order.flatten (· = .ok program)) ∧
    (¬ (definitions.map Definition.name).Nodup →
      ∀ order : List (List Token), order.Perm parts →
        ReadsAs currencies order.flatten fun outcome =>
          ∃ error : Grammar.Error, outcome = .error (.grammar error) ∧
            error.Repeats definitions) := by
  constructor
  · intro distinct
    rcases exists_isListing distinct with ⟨program, listing⟩
    refine ⟨program, listing, ?_⟩
    intro order perm
    rcases List.perm_comp_forall₂ perm defines with ⟨others, othersDefine, same⟩
    have fits := (fits_of_defines othersDefine).1
    exact .of_defines othersDefine fun text spells =>
      ofText_of_spells (listing.of_perm same) fits spells
  · intro repeated order perm
    rcases List.perm_comp_forall₂ perm defines with ⟨others, othersDefine, same⟩
    have fits := (fits_of_defines othersDefine).1
    rw [← (same.map Definition.name).nodup_iff] at repeated
    apply ReadsAs.of_defines othersDefine
    intro text spells
    rcases ofText_of_repeated fits repeated spells with ⟨error, failed, repeats⟩
    exact ⟨error, failed, repeats.of_perm same⟩

theorem sampleDefinitions_define : List.Forall₂ (Defines ["PLN"])
    (sampleDefinitions.map Definition.tokens) sampleDefinitions := by
  rw [List.forall₂_map_left_iff, List.forall₂_same]
  intro definition listed
  apply Defines.of_fits (sampleDefinitions_fit definition listed)
  intro token member
  cases fixed : token.isFixed with
  | false =>
      have inside := List.mem_flatMap.mpr ⟨definition, listed, member⟩
      exact sampleDefinitions_spellable token inside fixed
  | true => exact Token.isSpellable_of_isFixed fixed _

theorem definitions_in_any_order_of_sampleDefinitions :
    (∃ program : Program, program.IsListing sampleDefinitions ∧
      ReadsAs ["PLN"] (sampleDefinitions.map Definition.tokens).reverse.flatten
        (· = .ok program)) ∧
    ReadsAs ["PLN"] ((sampleDefinitions ++ sampleDefinitions).map Definition.tokens).flatten
      fun outcome => ∃ error : Grammar.Error, outcome = .error (.grammar error) ∧
        error.Repeats (sampleDefinitions ++ sampleDefinitions) := by
  have twice : List.Forall₂ (Defines ["PLN"])
      ((sampleDefinitions ++ sampleDefinitions).map Definition.tokens)
      (sampleDefinitions ++ sampleDefinitions) := by
    rw [List.map_append]
    exact List.rel_append sampleDefinitions_define sampleDefinitions_define
  constructor
  · rcases (definitions_in_any_order sampleDefinitions_define).1 (by decide) with
      ⟨program, listing, read⟩
    exact ⟨program, listing, read _ (List.reverse_perm _)⟩
  · exact (definitions_in_any_order twice).2 (by decide) _ (List.Perm.refl _)

end Program

end Ducat
