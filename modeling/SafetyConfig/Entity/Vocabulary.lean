/-!
# Element and attribute names

The four elements of a configuration document and the attributes that rules speak of.
-/

namespace SafetyConfig

inductive ElementName where
  | centerConfig
  | sourcesConfig
  | sourcesGroup
  | source
  deriving DecidableEq, Repr

def ElementName.label : ElementName → String
  | .centerConfig => "safety-center-config"
  | .sourcesConfig => "safety-sources-config"
  | .sourcesGroup => "safety-sources-group"
  | .source => "safety-source"

/-- What a rule can complain about: an attribute, or the lack of child elements. -/
inductive Field where
  | kind
  | id
  | packageName
  | title
  | titleForWork
  | summary
  | searchTerms
  | intentAction
  | profile
  | displayState
  | maxSeverity
  | receiver
  | disallowLogging
  | refreshOnOpen
  | icon
  | child (element : ElementName)
  deriving DecidableEq, Repr

def Field.label : Field → String
  | .kind => "type"
  | .id => "id"
  | .packageName => "packageName"
  | .title => "title"
  | .titleForWork => "titleForWork"
  | .summary => "summary"
  | .searchTerms => "searchTerms"
  | .intentAction => "intentAction"
  | .profile => "profile"
  | .displayState => "initialDisplayState"
  | .maxSeverity => "maxSeverityLevel"
  | .receiver => "broadcastReceiverClassName"
  | .disallowLogging => "disallowLogging"
  | .refreshOnOpen => "allowRefreshOnPageOpen"
  | .icon => "statelessIconType"
  | .child element => element.label

end SafetyConfig
