import PaletteSnap.Yaml.Scalar

namespace PaletteSnap.Yaml

-- Bytes, since escapes in a tag name bytes.
abbrev TagText := List UInt8

inductive Token where
  | version (major minor : Nat)
  | tagHandle (handle : String) (start : TagText)
  | documentStart
  | documentEnd
  | blockListStart
  | blockMappingStart
  | blockEnd
  | flowListStart
  | flowListEnd
  | flowMappingStart
  | flowMappingEnd
  | blockEntry
  | flowEntry
  | key
  | value
  | alias (name : String)
  | anchor (name : String)
  | tag (handle : String) (rest : TagText)
  | scalar (text : String) (style : Style)
deriving DecidableEq, Repr

end PaletteSnap.Yaml
