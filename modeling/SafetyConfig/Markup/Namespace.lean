import SafetyConfig.Markup.Error

/-!
# Namespaces

A prefix stands for the namespace it was last bound to. The empty prefix is the default
for elements; attributes without a prefix are in no namespace.
-/

namespace SafetyConfig.Markup

/-- Bindings of prefixes, innermost first. -/
abbrev NameScope := List (List Char × List Char)

/-- The namespaces that every document knows differ only in the last parts of their
names. -/
def knownUri (parts : List String) : List Char :=
  "http:/".toList ++ ("www.w3.org" :: parts).flatMap fun part => '/' :: part.toList

def xmlUri : List Char := knownUri ["XML", "1998", "namespace"]

def xmlnsUri : List Char := knownUri ["2000", "xmlns", ""]

def xmlMark : List Char := ['x', 'm', 'l']

def xmlnsMark : List Char := ['x', 'm', 'l', 'n', 's']

def outermostScope : NameScope := [(xmlMark, xmlUri)]

/-- The parts of a qualified name around its colon, the first one empty without a colon. -/
def splitQualified (name : List Char) : List Char × List Char :=
  match name.span (· != ':') with
  | (mark, _ :: loc) => (mark, loc)
  | (whole, []) => ([], whole)

/-- Bind a prefix. Only the default namespace can be unbound again; `xml` keeps its own
namespace, which no other prefix gets; `xmlns` cannot be bound, nor can its namespace; and
the closing brace ends namespaces in written names, so no namespace has one. -/
def bindNamespace (scope : NameScope) (mark uri : List Char) : Except MarkupError NameScope :=
  if uri.isEmpty && !mark.isEmpty then .error .malformed
  else if mark = xmlnsMark then .error .malformed
  else if (mark == xmlMark) != (uri == xmlUri) then .error .malformed
  else if uri = xmlnsUri || uri.contains '}' then .error .malformed
  else .ok ((mark, uri) :: scope)

/-- The prefix that an attribute of this name binds, if it is a namespace declaration. -/
def boundPrefix? (name : List Char) : Option (List Char) :=
  if name = xmlnsMark then some []
  else match splitQualified name with
    | (mark, loc) => if mark = xmlnsMark then some loc else none

def writtenName (uri loc : List Char) : List Char :=
  '{' :: uri ++ '}' :: loc

/-- The written name of an element. -/
def resolveTag (scope : NameScope) (name : List Char) : Except MarkupError (List Char) :=
  match splitQualified name with
  | ([], loc) =>
    match scope.lookup [] with
    | some (c :: uri) => .ok (writtenName (c :: uri) loc)
    | _ => .ok loc
  | (mark, loc) =>
    match scope.lookup mark with
    | some uri => .ok (writtenName uri loc)
    | none => .error .malformed

/-- The written name of an attribute. -/
def resolveAttribute (scope : NameScope) (name : List Char) : Except MarkupError (List Char) :=
  match splitQualified name with
  | ([], loc) => .ok loc
  | (mark, loc) =>
    match scope.lookup mark with
    | some uri => .ok (writtenName uri loc)
    | none => .error .malformed

end SafetyConfig.Markup
