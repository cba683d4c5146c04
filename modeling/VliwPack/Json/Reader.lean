import VliwPack.Json.Value

/-! # Reading documents

A reader takes tokens one at a time. It keeps the containers that are open, the
innermost first, and knows what may come next. The first token that may not come
stops it; the document is then what was read so far.
-/

namespace VliwPack.Json

/-- An open container. -/
inductive Container where
  /-- An array with these items, the latest first. -/
  | array (items : List Value)
  /-- An object with these members, the latest first, and the key whose value is
  being read. -/
  | object (members : List Member) (key : Text)

/-- What a reader expects next. -/
inductive Reader where
  /-- A value. -/
  | atValue (outer : List Container)
  /-- The first item of an array, or its end. -/
  | atItem (outer : List Container)
  /-- A key, or, of an object without members, its end. -/
  | atKey (members : List Member) (outer : List Container)
  /-- The colon after a key. -/
  | atColon (members : List Member) (key : Text) (outer : List Container)
  /-- What follows a value. -/
  | afterValue (value : Value) (outer : List Container)
  /-- Nothing: the text has stopped being JSON. -/
  | stopped (root : Value)

namespace Reader

/-- The document's value when the text stops being JSON inside open containers,
the innermost of which has just got a value. -/
def abandon (value : Value) : List Container → Value
  | [] => value
  | .array items :: outer => abandon (.array (value :: items).reverse false) outer
  | .object members key :: outer =>
      abandon (.object ((key, value) :: members).reverse false) outer

/-- The document's value when the text stops being JSON here. -/
def root : Reader → Value
  | atValue outer => abandon .absent outer
  | atItem outer => abandon (.array [] false) outer
  | atKey members outer => abandon (.object members.reverse false) outer
  | atColon members key outer =>
      abandon (.object ((key, .absent) :: members).reverse false) outer
  | afterValue value outer => abandon value outer
  | stopped root => root

/-- Takes a token where a value is expected. -/
def beginValue (outer : List Container) : Token → Reader
  | .null => afterValue .null outer
  | .boolean value => afterValue (.boolean value) outer
  | .number spelling => afterValue (.number spelling) outer
  | .text text => afterValue (.text text) outer
  | .openBracket => atItem outer
  | .openBrace => atKey [] outer
  | .closeBrace | .closeBracket | .comma | .colon | .invalid => stopped (atValue outer).root

/-- Takes a token. -/
def step : Reader → Token → Reader
  | atValue outer, token => beginValue outer token
  | atItem outer, .closeBracket => afterValue (.array [] true) outer
  | atItem outer, token => beginValue (.array [] :: outer) token
  | atKey members outer, .text key => atColon members key outer
  | atKey [] outer, .closeBrace => afterValue (.object [] true) outer
  | atColon members key outer, .colon => atValue (.object members key :: outer)
  | afterValue item (.array items :: outer), .comma => atValue (.array (item :: items) :: outer)
  | afterValue item (.array items :: outer), .closeBracket =>
      afterValue (.array (item :: items).reverse true) outer
  | afterValue value (.object members key :: outer), .comma => atKey ((key, value) :: members) outer
  | afterValue value (.object members key :: outer), .closeBrace =>
      afterValue (.object ((key, value) :: members).reverse true) outer
  | reader, _ => stopped reader.root

/-- The document when the text ends here. -/
def finish : Reader → Document
  | afterValue value [] => ⟨value, true⟩
  | reader => ⟨reader.root, false⟩

end Reader

/-- The document that tokens spell. -/
def Document.ofTokens (tokens : List Token) : Document :=
  (tokens.foldl Reader.step (.atValue [])).finish

/-- The document that a text spells. -/
def Document.ofString (text : String) : Document := ofTokens (Token.ofChars text.toList)

end VliwPack.Json
