import SafetyConfig.Encoding.Charset.Dos
import SafetyConfig.Encoding.Charset.Iso
import SafetyConfig.Encoding.Charset.Mac
import SafetyConfig.Encoding.Charset.National
import SafetyConfig.Encoding.Charset.Plain
import SafetyConfig.Encoding.Charset.Unfit
import SafetyConfig.Encoding.Charset.Windows

/-!
# The registry of charsets

Case does not matter in a label, nor do the kind and number of separators.
-/

namespace SafetyConfig.Charset

def registry : List Charset :=
  plainCharsets ++ isoCharsets ++ windowsCharsets ++ dosCharsets ++ macCharsets ++
    nationalCharsets ++ unfitCharsets

def ofLabel? (label : List Char) : Option Charset :=
  registry.find? (·.goesBy (plainLabel label))

end SafetyConfig.Charset
