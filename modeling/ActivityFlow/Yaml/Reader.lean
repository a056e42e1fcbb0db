import ActivityFlow.Yaml.Node
import ActivityFlow.Yaml.Serial.Reader
import ActivityFlow.Yaml.Token.Lexer

/-!
# Reading a document

The text of a document is cut into tokens, the tokens are put together, and the result is
kept in both of its forms: as it was written, and on request as it is read.
-/
namespace ActivityFlow.Yaml

/-- The document that a text holds, as it was written. -/
def serial? (text : String) : Option Serial := do Serial.ofTokens? (← tokens? text)

/-- The document that a text holds, as it is read, with those top-level entries whose keys
count. -/
def document? (counts : String → Bool) (text : String) : Option Node := do
  (← serial? text).unfoldDocument counts

end ActivityFlow.Yaml
