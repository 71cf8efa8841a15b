/-!
# `SelectionTypes.Yaml.Failure`: why a text is not read as YAML

A text may break the rules of the notation, or it may keep them and ask for a value that there is
not.
-/

set_option autoImplicit false

namespace SelectionTypes.Yaml

/-- Why a text is no YAML, or holds a value that does not exist. -/
inductive Failure where
  | malformed
  /-- A character, number or point in time that does not exist. -/
  | impossibleValue
  /-- A word that is tagged as a truth value and is none. -/
  | unknownTruthWord
  /-- A text that is tagged as a timestamp and is not written like one. -/
  | notTimestamp
  /-- A mapping that is tagged as a timestamp, whatever its default value is. -/
  | timestampOfMapping
  /-- A number without any character. -/
  | emptyNumber
  /-- A number beyond the greatest one. -/
  | tooLarge
  /-- Collections inside each other, or default values of each other, without an end in sight. -/
  | tooDeep
  deriving Repr, DecidableEq

end SelectionTypes.Yaml
