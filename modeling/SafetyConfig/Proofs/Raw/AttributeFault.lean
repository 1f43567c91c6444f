import SafetyConfig.Proofs.Convert.Message
import SafetyConfig.Proofs.Raw.Edit

/-!
# What is said of a wrong value

Reading looks at the values of a document in one order and reports the first that has not the right
form. What it says names the attribute and quotes the text, unless the text stands for a code and
looks like a number without being one: then the attempt to read a number is all that is reported.
-/

namespace SafetyConfig

namespace ValueForm

/-- What reading finds wrong with a value that should have this form. -/
def fault? (form : ValueForm) (field : Field) (value : Option String) : Option AttributeFault :=
  match form with
  | .code names => failure? (readCode field names value)
  | .integer => failure? (readInteger field value)
  | .boolean => failure? (readBoolean field value)

/-- That an attribute is wrong, with its name and its text, in the words for this form. -/
def complaint (form : ValueForm) (field : Field) (text : String) : String :=
  match form with
  | .code names =>
    "Invalid value for attribute " ++ field.label ++ ": '" ++ text ++ "'. Valid names: " ++
      ", ".intercalate (names.map (·.1))
  | .integer => "Attribute " ++ field.label ++ " is not an integer: '" ++ text ++ "'"
  | .boolean => "Attribute " ++ field.label ++ " is not a boolean: '" ++ text ++ "'"

/-- The text goes to the reader of numerals, and what that says of it is reported. -/
def TakesForNumeral (form : ValueForm) (text : String) : Prop :=
  match form with
  | .code _ => looksNumeric (attributeToken text) = true
  | .integer => False
  | .boolean => False

end ValueForm

/-- A value of a document, with the form it should have. -/
structure ValuePlace where
  element : Element
  field : Field
  form : ValueForm

namespace ValuePlace

def text? (p : ValuePlace) : Option String :=
  p.element.attribute? p.field.label

def fault? (p : ValuePlace) : Option AttributeFault :=
  p.form.fault? p.field p.text?

end ValuePlace

namespace Element

/-- The values of an element that is read as a source. -/
def sourcePlaces (e : Element) : List ValuePlace :=
  RawSource.forms.map fun entry => ⟨e, entry.1, entry.2⟩

def groupPlaces (e : Element) : List ValuePlace :=
  (RawGroup.forms.map fun entry => ⟨e, entry.1, entry.2⟩) ++
    (e.childrenTagged ElementName.source.label).flatMap sourcePlaces

/-- All values of a document in the order they are read in. -/
def valuePlaces (root : Element) : List ValuePlace :=
  root.groupElements.flatMap groupPlaces

theorem form_mem_of_mem_valuePlaces {root : Element} {p : ValuePlace} (h : p ∈ root.valuePlaces) :
    (p.field, p.form) ∈ valueForms := by
  obtain ⟨g, -, hg⟩ := List.mem_flatMap.mp h
  rcases List.mem_append.mp hg with hgroup | hsource
  · obtain ⟨entry, hentry, rfl⟩ := List.mem_map.mp hgroup
    exact List.mem_append_left _ hentry
  · obtain ⟨s, -, hs⟩ := List.mem_flatMap.mp hsource
    obtain ⟨entry, hentry, rfl⟩ := List.mem_map.mp hs
    exact List.mem_append_right _ hentry

end Element

/-! The first wrong value is reported. -/

/-- A value is read, and then others are. -/
theorem failure?_value {α β : Type} {p : ValuePlace} {later : List ValuePlace}
    {x : Except AttributeFault α} {f : α → Except AttributeFault β} (hx : failure? x = p.fault?)
    (hf : ∀ a, x = .ok a → failure? (f a) = later.findSome? ValuePlace.fault?) :
    failure? (x >>= f) = (p :: later).findSome? ValuePlace.fault? := by
  rw [failure?_bind hf, hx, List.findSome?_cons]
  cases p.fault? <;> rfl

theorem failure?_source (e : Element) :
    failure? (RawSource.ofElement e) = e.sourcePlaces.findSome? ValuePlace.fault? := by
  -- what is returned at the end depends on the values, but whether there is a fault does not
  refine failure?_value rfl fun kind _ => ?_
  refine failure?_value rfl fun profile _ => ?_
  refine failure?_value rfl fun displayState _ => ?_
  refine failure?_value rfl fun maxSeverity _ => ?_
  refine failure?_value rfl fun disallowLogging _ => ?_
  refine failure?_value rfl fun refreshOnOpen _ => ?_
  rfl

theorem failure?_group (e : Element) :
    failure? (RawGroup.ofElement e) = e.groupPlaces.findSome? ValuePlace.fault? := by
  refine failure?_value rfl fun icon _ => ?_
  rw [failure?_bind_pure]
  exact failure?_mapM failure?_source _

/-- The fault of a document is that of the first value that has one. -/
theorem failure?_config (root : Element) :
    failure? (RawConfig.ofElement root) = root.valuePlaces.findSome? ValuePlace.fault? := by
  unfold RawConfig.ofElement Element.valuePlaces Element.groupElements
  cases root.childTagged? ElementName.sourcesConfig.label with
  | none => rfl
  | some s =>
    rw [failure?_bind_pure]
    exact failure?_mapM failure?_group _

/-! What the readers say of a text. -/

/-- A fault of a numeral, whatever it stands for. -/
def AttributeFault.Anonymous : AttributeFault → Prop
  | .notANumeral _ => True
  | .numeralTooLong _ => True
  | _ => False

/-- What is said of a numeral begins as no complaint does. -/
theorem AttributeFault.Anonymous.message_ne {f : AttributeFault} (h : f.Anonymous)
    (form : ValueForm) (field : Field) (text : String) : f.message ≠ form.complaint field text := by
  have hfault : f.message.toList.head? = some 'i' ∨ f.message.toList.head? = some 'E' := by
    cases f with
    | notANumeral token => exact Or.inl (head?_append (by decide) _)
    | numeralTooLong digits => exact Or.inr (head?_append (head?_append (by decide) _) _)
    | _ => cases h
  have hcomplaint : (form.complaint field text).toList.head? = some 'I' ∨
      (form.complaint field text).toList.head? = some 'A' := by
    cases form with
    | code names =>
      left
      iterate 5 apply head?_append
      decide
    | integer =>
      right
      iterate 4 apply head?_append
      decide
    | boolean =>
      right
      iterate 4 apply head?_append
      decide
  intro heq
  rw [heq] at hfault
  rcases hfault with hf | hf <;> rcases hcomplaint with hc | hc <;> rw [hf] at hc <;> cases hc

section Readers

variable {field : Field} {names : List (String × Int)} {text : String} {f : AttributeFault}

theorem anonymous_of_readCodeNumeral {token : List Char} (h : readCodeNumeral token = .error f) :
    f.Anonymous := by
  unfold readCodeNumeral at h
  split at h <;> cases h <;> trivial

theorem readCode_eq_error (h : readCode field names (some text) = .error f) :
    looksNumeric (attributeToken text) = false ∧ f = .notAmong field text (names.map (·.1)) ∨
      looksNumeric (attributeToken text) = true ∧ f.Anonymous := by
  simp only [readCode] at h
  split at h
  · cases h
  · split at h
    · rename_i hlooks
      exact Or.inr ⟨hlooks, anonymous_of_readCodeNumeral h⟩
    · rename_i hlooks
      cases h
      exact Or.inl ⟨Bool.eq_false_iff.mpr hlooks, rfl⟩

theorem readInteger_eq_error (h : readInteger field (some text) = .error f) :
    f = .notAnInteger field text := by
  simp only [readInteger] at h
  split at h <;> cases h
  rfl

theorem readBoolean_eq_error (h : readBoolean field (some text) = .error f) :
    f = .notABoolean field text := by
  simp only [readBoolean] at h
  split at h <;> cases h
  rfl

end Readers

namespace ValueForm

variable {form : ValueForm} {field : Field} {text : String} {f : AttributeFault}

theorem fault?_none : form.fault? field none = none := by
  cases form <;> rfl

theorem not_accepts_of_fault? (hform : (field, form) ∈ valueForms)
    (h : form.fault? field (some text) = some f) : ¬ form.Accepts text := by
  cases form with
  | code names =>
    have herror : readCode field names (some text) = .error f := failure?_eq_some_iff.mp h
    rintro ⟨n, hn⟩
    rw [(readCode_eq_ok_iff (unambiguous_of_mem hform)).mpr hn] at herror
    cases herror
  | integer =>
    have herror : readInteger field (some text) = .error f := failure?_eq_some_iff.mp h
    rintro ⟨n, hn⟩
    rw [readInteger_eq_ok_iff.mpr ⟨n, rfl, hn⟩] at herror
    cases herror
  | boolean =>
    have herror : readBoolean field (some text) = .error f := failure?_eq_some_iff.mp h
    rintro ⟨b, hb⟩
    rw [readBoolean_eq_ok_iff.mpr hb] at herror
    cases herror

theorem message_of_fault? (h : form.fault? field (some text) = some f) :
    ¬ form.TakesForNumeral text ∧ f.message = form.complaint field text ∨
      form.TakesForNumeral text ∧ f.Anonymous := by
  cases form with
  | code names =>
    rcases readCode_eq_error (failure?_eq_some_iff.mp h) with ⟨hword, rfl⟩ | hnumeral
    · exact Or.inl ⟨ne_true_of_eq_false hword, rfl⟩
    · exact Or.inr hnumeral
  | integer =>
    obtain rfl := readInteger_eq_error (failure?_eq_some_iff.mp h)
    exact Or.inl ⟨not_false, rfl⟩
  | boolean =>
    obtain rfl := readBoolean_eq_error (failure?_eq_some_iff.mp h)
    exact Or.inl ⟨not_false, rfl⟩

end ValueForm

/-- A document is not read because of a value in it that is not of its form. What is reported
names that attribute and quotes its text as it stands in the document, except where the text stands
for a code and looks like a number: no attribute is named then. -/
theorem rejection_names_attribute_or_numeral {root : Element} {f : AttributeFault}
    (h : RawConfig.ofElement root = .error f) :
    ∃ p ∈ root.valuePlaces, ∃ text, p.text? = some text ∧ ¬ p.form.Accepts text ∧
      (¬ p.form.TakesForNumeral text ∧ f.message = p.form.complaint p.field text ∨
        p.form.TakesForNumeral text ∧
          ∀ form field other, f.message ≠ ValueForm.complaint form field other) := by
  have hfirst : root.valuePlaces.findSome? ValuePlace.fault? = some f := by
    rw [← failure?_config, failure?_eq_some_iff.mpr h]
  obtain ⟨p, hp, hfault⟩ := List.exists_of_findSome?_eq_some hfirst
  have hform := Element.form_mem_of_mem_valuePlaces hp
  rw [ValuePlace.fault?] at hfault
  cases htext : p.text? with
  | none =>
    rw [htext, ValueForm.fault?_none] at hfault
    cases hfault
  | some text =>
    rw [htext] at hfault
    refine ⟨p, hp, text, htext, ValueForm.not_accepts_of_fault? hform hfault, ?_⟩
    rcases ValueForm.message_of_fault? hfault with hnamed | ⟨htaken, hanonymous⟩
    · exact Or.inl hnamed
    · exact Or.inr ⟨htaken, hanonymous.message_ne⟩

/-! A word and a numeral with two signs, where a code should stand. -/

def iconRoot (text : String) : Element :=
  rootOf (.mk "safety-sources-group" [("statelessIconType", text)] "" [])

theorem padded_word_is_quoted :
    let f := AttributeFault.notAmong .icon " shield " ["none", "privacy"]
    RawConfig.ofElement (iconRoot " shield ") = .error f ∧
      f.message = (ValueForm.code IconKind.named).complaint .icon " shield " := by
  intro f
  have hread : RawConfig.ofElement (iconRoot " shield ") = .error f := by rfl
  have hword : looksNumeric (attributeToken " shield ") = false := by decide +kernel
  obtain ⟨p, hp, text, htext, -, hsaid⟩ := rejection_names_attribute_or_numeral hread
  obtain rfl := List.mem_singleton.mp hp
  obtain rfl := Option.some.inj htext
  rcases hsaid with ⟨-, hmessage⟩ | ⟨htaken, -⟩
  · exact ⟨hread, hmessage⟩
  · exact absurd htaken (ne_true_of_eq_false hword)

/-- The number that was looked for is all that the message is about. -/
theorem two_dashes_name_no_attribute :
    ¬ ∀ (root : Element) (f : AttributeFault), RawConfig.ofElement root = .error f →
      ∃ p ∈ root.valuePlaces, ∃ text, p.text? = some text ∧ ¬ p.form.Accepts text ∧
        f.message = p.form.complaint p.field text := by
  intro h
  obtain ⟨p, -, text, -, -, hmessage⟩ :=
    h (iconRoot "--1") (.notANumeral ['-', '-', '1']) (by rfl)
  have hanonymous : (AttributeFault.notANumeral ['-', '-', '1']).Anonymous := trivial
  exact hanonymous.message_ne p.form p.field text hmessage

end SafetyConfig
