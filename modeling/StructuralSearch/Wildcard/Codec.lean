import StructuralSearch.Text.Occurrence
import StructuralSearch.Wildcard.Marker

/-!
# Placeholders

A grammar in which `$` is not legal sees placeholder tokens in the place of the markers.
`encode` writes them before a query is parsed and `decode` puts the markers back into the texts of
the parsed nodes.  A lone `$` that is directly followed by one of the characters in `keepBefore`
belongs to the language and stays.
-/

namespace StructuralSearch

open Text

/-- The placeholder of each marker, and the characters before which a lone `$` stays. -/
structure Codec where
  rest : String
  node : String
  identifier : String
  keepBefore : List Char := []
  deriving DecidableEq, Repr

namespace Codec

variable (codec : Codec)

/-- The placeholder of a marker. -/
def placeholder : Marker → String
  | .identifier => codec.identifier
  | .node => codec.node
  | .rest => codec.rest

/-- The encoded form of a piece that is followed by the pieces `following`. -/
def encodePiece (piece : Piece) (following : List Piece) : List Char :=
  match piece, following with
  | .plain c, _ => [c]
  | .marker .identifier, .plain c :: _ =>
    if codec.keepBefore.contains c then ['$'] else codec.identifier.toList
  | .marker m, _ => (codec.placeholder m).toList

/-- The encoded form of a list of pieces. -/
def encodePieces : List Piece → List Char
  | [] => []
  | piece :: pieces => codec.encodePiece piece pieces ++ encodePieces pieces

/-- Replaces the markers of a query by their placeholders. -/
def encode (query : String) : String :=
  String.ofList (codec.encodePieces (Piece.scan query.toList))

/-- Puts the marker back wherever its placeholder stands. -/
def restore (m : Marker) (text : List Char) : List Char :=
  replaceAll (codec.placeholder m).toList m.text.toList text

/-- Puts all markers back, the longest first. -/
def decode (text : String) : String :=
  String.ofList (codec.restore .identifier (codec.restore .node (codec.restore .rest text.toList)))

/-- Whether a text holds one of the placeholders. -/
def holdsPlaceholder (text : String) : Bool :=
  [Marker.rest, .node, .identifier].any fun m => occursIn (codec.placeholder m).toList text.toList

end Codec

end StructuralSearch
