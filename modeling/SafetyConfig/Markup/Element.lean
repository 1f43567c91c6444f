/-!
# Element trees

The text of an element is its own character data, that of its children left out. Names in
a namespace are written with the namespace in braces in front.
-/

namespace SafetyConfig

inductive Element where
  | mk (tag : String) (attributes : List (String × String)) (text : String)
      (children : List Element)
  deriving Inhabited

namespace Element

def tag : Element → String
  | mk tag _ _ _ => tag

def attributes : Element → List (String × String)
  | mk _ attributes _ _ => attributes

def text : Element → String
  | mk _ _ text _ => text

def children : Element → List Element
  | mk _ _ _ children => children

def attribute? (e : Element) (name : String) : Option String :=
  e.attributes.lookup name

def childrenTagged (e : Element) (tag : String) : List Element :=
  e.children.filter (·.tag == tag)

theorem tag_of_mem_childrenTagged {e child : Element} {tag : String}
    (h : child ∈ e.childrenTagged tag) : child.tag = tag :=
  beq_iff_eq.mp (List.mem_filter.mp h).2

/-- The first child with a tag. -/
def childTagged? (e : Element) (tag : String) : Option Element :=
  e.children.find? (·.tag == tag)

end Element

end SafetyConfig
