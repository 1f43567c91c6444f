import SafetyConfig.Markup.Document
import SafetyConfig.Proofs.Markup.LocalDeclaration
import SafetyConfig.Proofs.Markup.Manuscript

/-!
# What opens a document

All that is before the root's start tag is settled by its characters and the next one. The start tag
has its own end, so behind it a document may go on in any way.
-/

namespace SafetyConfig.Markup

open Leaves

variable {β γ : Type} [Leaves β] [Leaves γ] {letters : Alphabet} {spare : Nat}
  {read other : Nat → Reader β} {cs tail : List Char} {b : β}

/-! Comments, instructions and the document type. -/

theorem readKeyword_dash (cs : List Char) : readKeyword ('-' :: cs) = .error .malformed := rfl

theorem readProlog_skipSpace (base : Doctype) (fuel : Nat) (doctype : Option Doctype)
    (cs : List Char) :
    readProlog base fuel doctype (skipSpace cs) = readProlog base fuel doctype cs := by
  cases fuel with
  | zero => rfl
  | succ fuel => simp only [readProlog, skipSpace_skipSpace]

/-- A document type declaration after its first two characters, and what follows it. -/
def readTypeAndProlog (base : Doctype) (fuel : Nat) (doctype : Option Doctype) (cs : List Char) :
    Except MarkupError (Doctype × List Char) := do
  let (word, rest) ← readKeyword cs
  if doctype.isSome || word != "DOCTYPE".toList then throw .malformed
  let (d, rest) ← readDoctype base rest
  readProlog base fuel (some d) rest

theorem readProlog_declaration (base : Doctype) (fuel : Nat) (doctype : Option Doctype)
    {cs : List Char} (h : cs.head? ≠ some '-') :
    readProlog base (fuel + 1) doctype ('<' :: '!' :: cs) =
      readTypeAndProlog base fuel doctype cs := by
  rw [readProlog, skipSpace_cons (by decide)]
  split
  · rename_i heq
    cases heq
    exact absurd rfl h
  · rename_i heq
    cases heq
  · rename_i heq
    cases heq
    rfl
  · rename_i hmark heq
    cases heq
    exact absurd rfl (hmark cs)
  · rename_i hbracket
    exact absurd rfl (hbracket _)

theorem readProlog_tag (base : Doctype) (fuel : Nat) (doctype : Option Doctype) {cs : List Char}
    (hmark : cs.head? ≠ some '!') (hinstruction : cs.head? ≠ some '?') :
    readProlog base (fuel + 1) doctype ('<' :: cs) = .ok (doctype.getD base, cs) := by
  rw [readProlog, skipSpace_cons (by decide)]
  split
  · rename_i heq
    cases heq
    exact absurd rfl hmark
  · rename_i heq
    cases heq
    exact absurd rfl hinstruction
  · rename_i heq
    cases heq
    exact absurd rfl hmark
  · rename_i heq
    cases heq
    rfl
  · rename_i hbracket
    exact absurd rfl (hbracket _)

theorem local_readProlog (base : Doctype) (fuel : Nat) (doctype : Option Doctype) :
    Local 0 (readProlog base fuel doctype) fun fuel => readProlog base fuel doctype := by
  induction fuel generalizing doctype with
  | zero => exact .error
  | succ fuel ih =>
    refine .of_step fun cs b h => ?_
    refine .of_skipSpace (fun fuel => readProlog_skipSpace base (fuel + 1) doctype) ?_
    rw [readProlog] at h
    split at h
    · rename_i rest hrest
      have hcomment : Local 0 (fun r => skipComment r >>= readProlog base fuel doctype)
          fun fuel r => skipComment r >>= readProlog base fuel doctype :=
        .bind_zero local_skipComment fun _ => ih doctype
      rw [hrest]
      exact (hcomment rest b h).behind ['<', '!', '-', '-'] (by simp) fun _ _ _ => rfl
    · rename_i rest hrest
      have hinstruction : Local 1
          (fun r => readInstruction base.letters r >>= readProlog base fuel doctype)
          fun fuel r => readInstruction base.letters r >>= readProlog base fuel doctype :=
        .bind (local_readInstruction base.letters) (q := 0) fun _ => ih doctype
      rw [hrest]
      exact (hinstruction rest b h).behind ['<', '?'] (by simp) fun _ _ _ => rfl
    · rename_i rest _ hrest
      have htype : Local 2 (readTypeAndProlog base fuel doctype)
          fun fuel => readTypeAndProlog base fuel doctype := by
        refine .bind local_readKeyword (q := 1) fun ⟨word, _⟩ => ?_
        refine .ite (fun _ => .error) fun _ => ?_
        exact .bind (local_readDoctype base) (q := 0) fun ⟨d, _⟩ => ih (some d)
      have hdash : rest.head? ≠ some '-' := by
        intro hhead
        obtain ⟨cs, rfl⟩ := List.head?_eq_some_iff.mp hhead
        rw [readKeyword_dash] at h
        cases h
      rw [hrest]
      refine (htype rest b h).behind ['<', '!'] (by simp) fun fuel tail htail => ?_
      exact readProlog_declaration base fuel doctype (htail ▸ hdash)
    · rename_i rest _ hinstruction hmark hrest
      cases h
      rw [hrest]
      refine ⟨['<'], rfl, Nat.le_refl 1, fun fuel _ tail htail => ?_⟩
      refine readProlog_tag base fuel doctype ?_ ?_
      · intro hhead
        obtain ⟨cs, hcs⟩ := List.head?_eq_some_iff.mp (htail ▸ hhead)
        exact hmark cs hcs
      · intro hhead
        obtain ⟨cs, hcs⟩ := List.head?_eq_some_iff.mp (htail ▸ hhead)
        exact hinstruction cs hcs
    · cases h

/-! Start tags. -/

theorem endsAttribute_congr {xs ys : List Char} (h : xs.head? = ys.head?) :
    endsAttribute xs = endsAttribute ys := by
  cases xs <;> cases ys <;> simp_all [endsAttribute]

/-- The value of an attribute behind the equals sign, with the name that it belongs to. -/
def readAttributeValue (name cs : List Char) : Except MarkupError (AttributePair × List Char) :=
  match skipSpace cs with
  | quote :: rest => do
    if quote != '"' && quote != '\'' then throw .malformed
    let (value, rest) ← readUntilQuote quote rest
    if endsAttribute rest then return ((name, value), rest) else throw .malformed
  | [] => .error .malformed

theorem local_readAttributeValue (name : List Char) :
    Local 1 (readAttributeValue name) fun _ => readAttributeValue name := by
  refine .of_space (p := 0) (fun cs => ?_) (fun _ cs => ?_) nofun fun quote hquote => ?_
  · simp only [readAttributeValue, skipSpace_skipSpace]
  · simp only [readAttributeValue, skipSpace_skipSpace]
  simp only [readAttributeValue, skipSpace_cons hquote]
  refine .ite (fun _ => .error) fun _ => ?_
  exact .bind_zero (local_readUntilQuote quote) fun ⟨value, _⟩ =>
    .done_if (a := (name, value)) endsAttribute_congr

theorem local_readAttribute (letters : Alphabet) :
    Local 1 (readAttribute letters) fun _ => readAttribute letters := by
  unfold readAttribute
  refine .bind (local_readQualified letters) (q := 0) fun ⟨name, _⟩ => .mono ?_ (Nat.zero_le 1)
  dsimp only [withRest]
  refine .of_space (p := 0) (fun cs => ?_) (fun _ cs => ?_) nofun fun c hc => ?_
  · simp only [skipSpace_skipSpace]
  · simp only [skipSpace_skipSpace]
  simp only [skipSpace_cons hc]
  by_cases hequals : c = '='
  · subst hequals
    exact (local_readAttributeValue name).mono (Nat.zero_le 1)
  · intro cs b h
    dsimp only at h
    split at h
    · rename_i heq
      cases heq
      exact absurd rfl hequals
    · cases h

/-- A reader that comes to an end of its own: behind that a text may go on in any way. -/
def Closes (read : Nat → Reader β) (cs : List Char) (b : β) : Prop :=
  ∃ inner, cs = inner ++ '>' :: rest b ∧ ∀ fuel, inner.length ≤ fuel → ∀ tail,
    read (fuel + 1) (inner ++ '>' :: tail) = .ok (withRest b tail)

theorem Closes.congr (h : Closes other cs b)
    (hread : ∀ fuel tail, tail.head? = cs.head? → read fuel tail = other fuel tail) :
    Closes read cs b := by
  obtain ⟨inner, rfl, hinner⟩ := h
  refine ⟨inner, rfl, fun fuel hfuel tail => ?_⟩
  have hhead : (inner ++ '>' :: tail).head? = (inner ++ '>' :: rest b).head? :=
    head?_append_congr rfl
  rw [hread _ _ hhead]
  exact hinner fuel hfuel tail

/-- Characters in front of what is read with one step of fuel less. -/
theorem Closes.behind {rest' front : List Char} (h : Closes other rest' b)
    (hfront : front ≠ [])
    (hread : ∀ fuel tail, tail.head? = rest'.head? →
      read (fuel + 1) (front ++ tail) = other fuel tail) :
    Closes read (front ++ rest') b := by
  obtain ⟨inner, rfl, hinner⟩ := h
  refine ⟨front ++ inner, (List.append_assoc ..).symm, fun fuel hfuel tail => ?_⟩
  have hlength := List.length_pos_iff.mpr hfront
  rw [List.length_append] at hfuel
  obtain ⟨fuel, rfl⟩ : ∃ n, fuel = n + 1 := ⟨fuel - 1, by omega⟩
  have hhead : (inner ++ '>' :: tail).head? = (inner ++ '>' :: rest b).head? :=
    head?_append_congr rfl
  rw [List.append_assoc, hread _ _ hhead]
  exact hinner fuel (by omega) tail

theorem Takes.bind_closes {c : γ} {K : Nat → β → Except MarkupError γ}
    (hread : Takes spare read cs b)
    (hk : Closes (fun fuel r => K fuel (withRest b r)) (rest b) c) :
    Closes (fun fuel cs => read fuel cs >>= K fuel) cs c := by
  obtain ⟨used, rfl, hlength, hused⟩ := hread
  obtain ⟨inner, hrest, hinner⟩ := hk
  refine ⟨used ++ inner, ?_, fun fuel hfuel tail => ?_⟩
  · rw [hrest, List.append_assoc]
  · rw [List.length_append] at hfuel
    have hhead : (inner ++ '>' :: tail).head? = (rest b).head? := by
      rw [hrest]
      exact head?_append_congr rfl
    have hfirst := hused (fuel + 1) (by omega) _ hhead
    simp only [List.append_assoc, hfirst, ok_bind]
    exact hinner fuel (by omega) tail

/-- What a tag goes on with behind blanks: its end, or an attribute. -/
def readTagPart (letters : Alphabet) (fuel : Nat) (done : List AttributePair) (cs : List Char) :
    Except MarkupError ((List AttributePair × Bool) × List Char) :=
  match cs with
  | '>' :: rest => .ok ((done.reverse, false), rest)
  | '/' :: '>' :: rest => .ok ((done.reverse, true), rest)
  | cs => do
    let (pair, rest) ← readAttribute letters cs
    readTagEnd letters fuel (pair :: done) rest

theorem readTagEnd_cons {c : Char} (hend : c ≠ '>') (hempty : c = '/' → cs.head? ≠ some '>')
    (fuel : Nat) (done : List AttributePair) :
    readTagEnd letters (fuel + 1) done (c :: cs) =
      if isSpace c then readTagPart letters fuel done (skipSpace cs) else .error .malformed := by
  rw [readTagEnd]
  · cases hc : isSpace c with
    | false => rfl
    | true =>
      rw [show skipSpace (c :: cs) = skipSpace cs from List.dropWhile_cons_of_pos hc]
      rfl
  · exact hend
  · rintro rest hc rfl
    exact hempty hc rfl

theorem readAttribute_mark {c : Char} (hc : c = '>' ∨ c = '/') (cs : List Char) :
    readAttribute letters (c :: cs) = .error .malformed := by
  cases letters <;> rcases hc with rfl | rfl <;> rfl

theorem readTagPart_attribute (hend : cs.head? ≠ some '>') (hempty : cs.head? ≠ some '/')
    (fuel : Nat) (done : List AttributePair) :
    readTagPart letters fuel done cs =
      readAttribute letters cs >>= fun x => readTagEnd letters fuel (x.1 :: done) x.2 := by
  unfold readTagPart
  split
  · exact absurd rfl hend
  · exact absurd rfl hempty
  · rfl

theorem closes_readTagPart {fuel : Nat} {done : List AttributePair}
    {b : (List AttributePair × Bool) × List Char} (h : readTagPart letters fuel done cs = .ok b)
    (ih : ∀ {done cs b}, readTagEnd letters fuel done cs = .ok b →
      Closes (fun fuel => readTagEnd letters fuel done) cs b) :
    Closes (fun fuel => readTagPart letters fuel done) cs b := by
  unfold readTagPart at h
  split at h
  · cases h
    exact ⟨[], rfl, fun _ _ _ => rfl⟩
  · cases h
    exact ⟨['/'], rfl, fun _ _ _ => rfl⟩
  · obtain ⟨x, hattribute, h⟩ := bind_eq_ok_iff.mp h
    -- What an attribute can be read from does not start like the end of a tag.
    have hmark : ∀ c, c = '>' ∨ c = '/' → cs.head? ≠ some c := by
      intro c hc hhead
      obtain ⟨r, rfl⟩ := List.head?_eq_some_iff.mp hhead
      rw [readAttribute_mark hc] at hattribute
      cases hattribute
    have hread := (local_readAttribute letters cs x hattribute).bind_closes
      (K := fun fuel x => readTagEnd letters fuel (x.1 :: done) x.2) (ih h)
    refine hread.congr fun fuel tail htail => ?_
    exact readTagPart_attribute (htail ▸ hmark '>' (.inl rfl)) (htail ▸ hmark '/' (.inr rfl)) _ _

theorem closes_readTagEnd {fuel : Nat} {done : List AttributePair}
    {b : (List AttributePair × Bool) × List Char} (h : readTagEnd letters fuel done cs = .ok b) :
    Closes (fun fuel => readTagEnd letters fuel done) cs b := by
  induction fuel generalizing done cs b with
  | zero => cases h
  | succ fuel ih =>
    cases cs with
    | nil => cases h
    | cons c r =>
      by_cases hend : c = '>'
      · subst hend
        cases h
        exact ⟨[], rfl, fun _ _ _ => rfl⟩
      by_cases hempty : c = '/' → r.head? ≠ some '>'
      · rw [readTagEnd_cons hend hempty] at h
        split at h
        · rename_i hc
          obtain ⟨space, hr, hspace⟩ := exists_space r
          rw [hr]
          refine (closes_readTagPart h ih).behind (List.cons_ne_nil c space)
            fun fuel tail htail => ?_
          have hmark : c = '/' → (space ++ tail).head? ≠ some '>' := by
            rintro rfl
            cases hc
          rw [List.cons_append, readTagEnd_cons hend hmark, if_pos hc, hspace tail htail]
        · cases h
      · obtain ⟨rfl, hhead⟩ : c = '/' ∧ r.head? = some '>' := by simpa using hempty
        obtain ⟨r, rfl⟩ := List.head?_eq_some_iff.mp hhead
        cases h
        exact ⟨['/'], rfl, fun _ _ _ => rfl⟩

theorem readTag_nameless (fuel : Nat) (cs : List Char) :
    readTag letters fuel ('>' :: cs) = .error .malformed := by
  cases letters <;> rfl

theorem closes_readTag {fuel : Nat} {b : WrittenTag × List Char}
    (h : readTag letters fuel cs = .ok b) : Closes (readTag letters) cs b := by
  obtain ⟨⟨name, r⟩, hname, h⟩ := bind_eq_ok_iff.mp h
  obtain ⟨⟨⟨attributes, isEmpty⟩, r'⟩, hend, h⟩ := bind_eq_ok_iff.mp h
  cases h
  obtain ⟨inner, hr, hinner⟩ := closes_readTagEnd hend
  refine (local_readQualified letters cs _ hname).bind_closes ⟨inner, hr, fun fuel hfuel tail => ?_⟩
  simp only [withRest, hinner fuel hfuel tail, ok_bind]
  rfl

/-! The opening of a document. -/

def Manuscript.opening (m : Manuscript) : Except MarkupError Opening := do
  let base : Doctype := { standalone := m.standalone, letters := m.letters }
  let (doctype, rest) ← readProlog base m.chars.length none m.chars
  let (written, rest) ← readTag m.letters rest.length rest
  let root ← startTag doctype outermostScope written
  return ⟨doctype, root, rest⟩

theorem openDocument_eq (bytes : Bytes) :
    openDocument bytes = Manuscript.ofBytes bytes >>= Manuscript.opening := rfl

/-- A manuscript may go on in any way behind its root's start tag. -/
theorem opening_append {m : Manuscript} {o : Opening} (h : m.opening = .ok o) :
    ∃ inner, m.chars = inner ++ '>' :: o.rest ∧ 2 ≤ inner.length ∧ ∀ tail,
      { m with chars := inner ++ '>' :: tail }.opening = .ok { o with rest := tail } := by
  obtain ⟨⟨doctype, r⟩, hprolog, h⟩ := bind_eq_ok_iff.mp h
  obtain ⟨⟨written, r'⟩, htag, h⟩ := bind_eq_ok_iff.mp h
  obtain ⟨root, hroot, h⟩ := bind_eq_ok_iff.mp h
  cases h
  obtain ⟨used, hchars, -, hused⟩ := local_readProlog _ _ _ _ _ hprolog
  obtain ⟨inner, hrest, hinner⟩ := closes_readTag htag
  dsimp only [rest, withRest] at hchars hrest hinner hused
  have hused_ne : used ≠ [] := by
    rintro rfl
    cases hused 0 (Nat.le_refl 0) r rfl
  have hinner_ne : inner ≠ [] := by
    rintro rfl
    have hnameless := hinner 0 (Nat.le_refl 0) []
    rw [List.nil_append, readTag_nameless] at hnameless
    cases hnameless
  have hused_pos := List.length_pos_iff.mpr hused_ne
  have hinner_pos := List.length_pos_iff.mpr hinner_ne
  refine ⟨used ++ inner, ?_, ?_, fun tail => ?_⟩
  · rw [hchars, hrest, List.append_assoc]
  · rw [List.length_append]
    omega
  · have hhead : (inner ++ '>' :: tail).head? = r.head? := by
      rw [hrest]
      exact head?_append_congr rfl
    have hfuel : used.length ≤ (used ++ (inner ++ '>' :: tail)).length + 0 := by
      rw [List.length_append]
      omega
    have hlength : (inner ++ '>' :: tail).length = inner.length + tail.length + 1 := by
      rw [List.length_append, List.length_cons]
      rfl
    simp only [Manuscript.opening, List.append_assoc, hused _ hfuel _ hhead, ok_bind, hlength,
      hinner _ (Nat.le_add_right _ _) tail, hroot]
    rfl

/-- Every document that opens does so by bytes at its start, and what is behind them is the rest of
it, read in one encoding. -/
theorem exists_opening {bytes : Bytes} {o : Opening} (h : openDocument bytes = .ok o) :
    ∃ opening rest e, bytes = opening ++ rest ∧ ∀ more,
      openDocument (opening ++ more) = .ok { o with rest := characters e more } := by
  rw [openDocument_eq] at h
  obtain ⟨m, hm, hopening⟩ := bind_eq_ok_iff.mp h
  obtain ⟨inner, hchars, hinner, htail⟩ := opening_append hopening
  obtain ⟨opening, rest, e, rfl, hbytes⟩ := ofBytes_append hm hchars hinner
  refine ⟨opening, rest, e, rfl, fun more => ?_⟩
  rw [openDocument_eq, hbytes more, ok_bind]
  exact htail _

/-- Bytes that end where the start tag of the root does. -/
def IsOpening (bytes : Bytes) : Prop :=
  ∃ o, openDocument bytes = .ok o ∧ o.rest = []

theorem exists_isOpening_of_rootTag {bytes : Bytes} {tag : String} (h : rootTag bytes = .ok tag) :
    ∃ opening rest, bytes = opening ++ rest ∧ IsOpening opening ∧
      ∀ more, rootTag (opening ++ more) = .ok tag := by
  obtain ⟨o, hopen, rfl⟩ := map_eq_ok_iff.mp h
  obtain ⟨opening, rest, e, rfl, hmore⟩ := exists_opening hopen
  have hnil := hmore []
  rw [List.append_nil] at hnil
  refine ⟨opening, rest, rfl, ⟨_, hnil, characters_nil e⟩, fun more => ?_⟩
  rw [rootTag, hmore]
  rfl

/-- Nothing that goes on behind an opening is an opening, so a document has only one. -/
theorem eq_nil_of_isOpening_append {opening rest : Bytes} (h : IsOpening opening)
    (hrest : IsOpening (opening ++ rest)) : rest = [] := by
  obtain ⟨o, hopen, -⟩ := h
  obtain ⟨o', hopen', hnil⟩ := hrest
  obtain ⟨front, back, e, rfl, hmore⟩ := exists_opening hopen
  rw [List.append_assoc, hmore] at hopen'
  obtain rfl := Except.ok.inj hopen'
  exact (List.append_eq_nil_iff.mp (eq_nil_of_characters hnil)).2

/-- Whatever has a root tag at all holds the whole opening. -/
theorem isOpening_prefix {bytes opening front : Bytes} {tag : String} (hopening : IsOpening opening)
    (hbytes : opening <+: bytes) (hfront : front <+: bytes) (h : rootTag front = .ok tag) :
    opening <+: front := by
  obtain ⟨opening', rest, rfl, hopening', -⟩ := exists_isOpening_of_rootTag h
  have hbytes' : opening' <+: bytes := (List.prefix_append _ _).trans hfront
  rcases List.prefix_or_prefix_of_prefix hbytes hbytes' with ⟨r, rfl⟩ | ⟨r, rfl⟩
  · rw [List.append_assoc]
    exact List.prefix_append _ _
  · rw [eq_nil_of_isOpening_append hopening' hopening, List.append_nil]
    exact List.prefix_append _ _

end SafetyConfig.Markup
