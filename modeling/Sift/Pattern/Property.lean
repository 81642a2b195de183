import Sift.Pattern.Basic
import Sift.Unicode.NamedSet

/-!
# Properties by name

A pattern names a property by its long or short name, in any case and with any separators. A name
alone may be that of a property, of a general category or of a script; `name=value` asks for a
category, a script, or use with a script.
-/

namespace Sift.Pattern

open Unicode

/-- A name without case and separators, and without a leading `is`, unless only `c` is left. -/
def plainName (name : String) : String :=
  let letters := name.toList.filter fun c =>
    c.toNat < 128 && !(c == ' ' || c == '_' || c == '-')
  let lower := letters.map Char.toLower
  match name.toList.map Char.toLower, lower with
  | 'i' :: 's' :: _, 'i' :: 's' :: rest =>
    if rest = ['c'] then "isc" else String.ofList rest
  | _, _ => String.ofList lower

/-- The general categories under a plain name. -/
def categories? (name : String) : Option (List Category) :=
  match name with
  | "l" | "letter" => some [.lu, .ll, .lt, .lm, .lo]
  | "lc" | "casedletter" => some [.lu, .ll, .lt]
  | "lu" | "uppercaseletter" => some [.lu]
  | "ll" | "lowercaseletter" => some [.ll]
  | "lt" | "titlecaseletter" => some [.lt]
  | "lm" | "modifierletter" => some [.lm]
  | "lo" | "otherletter" => some [.lo]
  | "m" | "mark" | "combiningmark" => some [.mn, .mc, .me]
  | "mn" | "nonspacingmark" => some [.mn]
  | "mc" | "spacingmark" => some [.mc]
  | "me" | "enclosingmark" => some [.me]
  | "n" | "number" => some [.nd, .nl, .no]
  | "nd" | "decimalnumber" | "digit" => some [.nd]
  | "nl" | "letternumber" => some [.nl]
  | "no" | "othernumber" => some [.no]
  | "p" | "punctuation" | "punct" => some [.pc, .pd, .ps, .pe, .pi, .pf, .po]
  | "pc" | "connectorpunctuation" => some [.pc]
  | "pd" | "dashpunctuation" => some [.pd]
  | "ps" | "openpunctuation" => some [.ps]
  | "pe" | "closepunctuation" => some [.pe]
  | "pi" | "initialpunctuation" => some [.pi]
  | "pf" | "finalpunctuation" => some [.pf]
  | "po" | "otherpunctuation" => some [.po]
  | "s" | "symbol" => some [.sm, .sc, .sk, .so]
  | "sm" | "mathsymbol" => some [.sm]
  | "sc" | "currencysymbol" => some [.sc]
  | "sk" | "modifiersymbol" => some [.sk]
  | "so" | "othersymbol" => some [.so]
  | "z" | "separator" => some [.zs, .zl, .zp]
  | "zs" | "spaceseparator" => some [.zs]
  | "zl" | "lineseparator" => some [.zl]
  | "zp" | "paragraphseparator" => some [.zp]
  | "c" | "other" => some [.cc, .cf, .co, .cn]
  | "cc" | "control" | "cntrl" => some [.cc]
  | "cf" | "format" => some [.cf]
  | "co" | "privateuse" => some [.co]
  | "cn" | "unassigned" => some [.cn]
  | _ => none

/-- What a general category may be asked for by: a category or one of three wider classes. -/
def categoryProperty? (name : String) : Option Property :=
  match name with
  | "any" => some (.predicate fun _ => true)
  | "assigned" => some (.predicate fun c => category c != .cn)
  | "ascii" => some (.predicate fun c => c.toNat < 128)
  | _ => (categories? name).map .categories

/-- The property under a plain name that is neither a category nor a script. -/
def ownProperty? (name : String) : Option Property :=
  match name with
  | "alphabetic" | "alpha" => some (.predicate isAlphabetic)
  | "lowercase" | "lower" => some (.predicate isLowercase)
  | "uppercase" | "upper" => some (.predicate isUppercase)
  | "whitespace" | "wspace" | "space" => some .whiteSpace
  | "cased" => some (.predicate isCased)
  | "caseignorable" | "ci" => some (.predicate isCaseIgnorable)
  | "graphemebase" | "grbase" => some (.predicate isGraphemeBase)
  | "graphemeextend" | "grext" => some (.predicate isGraphemeExtend)
  | "idstart" | "ids" => some (.predicate isIdStart)
  | "idcontinue" | "idc" => some (.predicate isIdContinue)
  | "xidstart" | "xids" => some (.predicate isXidStart)
  | "xidcontinue" | "xidc" => some (.predicate isXidContinue)
  | _ =>
    (namedSets.find? fun set => set.name = name ∨ (set.short ≠ "" ∧ set.short = name)).map fun set =>
      let characters := CharSet.ofRows set.rows
      .predicate characters.contains

/-- The property that a name alone stands for. -/
def propertyNamed? (name : String) : Option Property :=
  let plain := plainName name
  let own := if ["cf", "sc", "lc"].contains plain then none else ownProperty? plain
  (own.or (categoryProperty? plain)).or ((Script.ofName? plain).map .script)

/-- The property that a name with a value stands for. -/
def propertyValued? (name value : String) : Option Property :=
  match plainName name with
  | "gc" | "generalcategory" => categoryProperty? (plainName value)
  | "sc" | "script" => (Script.ofName? (plainName value)).map .script
  | "scx" | "scriptextensions" => (Script.ofName? (plainName value)).map .scriptExtension
  | _ => none

end Sift.Pattern
