import Ducat.Proofs.Grammar.Accepted
import Ducat.Proofs.Token.Division

/-! The currencies that a program names are among those with which its text was read. -/

namespace Ducat

def Token.Listed (currencies : List String) (tokens : List Token) : Prop :=
  ∀ id, .currency id ∈ tokens → id ∈ currencies

theorem Token.Listed.of_subset {currencies : List String} {tokens others : List Token}
    (listed : Token.Listed currencies tokens) (subset : others ⊆ tokens) :
    Token.Listed currencies others :=
  fun id member => listed id (subset member)

theorem TokenList.listed_ofText (currencies : List String) (text : String) :
    Token.Listed currencies ((TokenList.ofText currencies text).tokens.map PlacedToken.token) := by
  intro id member
  rcases List.mem_map.mp member with ⟨token, inside, isCurrency⟩
  exact TokenList.listed_of_mem_ofText inside isCurrency

theorem Program.listed_of_ofText {currencies : List String} {text : String} {program : Program}
    (read : Program.ofText currencies text = .ok program) {name : String}
    {definition : Definition} (found : program.definition? name = some definition) :
    Token.Listed currencies definition.tokens := by
  rcases exists_lexer_of_ofText read with ⟨lexer, accepted, leaves, fewer⟩
  rcases Grammar.listing_of_program leaves fewer accepted with
    ⟨definitions, listing, fits, written, complete⟩
  have member := ((listing.known name definition).mp found).1
  have named := TokenList.listed_ofText currencies text
  apply named.of_subset
  intro token inside
  have spelled := List.mem_flatMap.mpr ⟨definition, member, inside⟩
  rw [← written] at spelled
  rcases List.mem_map.mp spelled with ⟨placedToken, kept, equal⟩
  exact List.mem_map.mpr ⟨placedToken, (List.mem_filter.mp kept).1, equal⟩

end Ducat
