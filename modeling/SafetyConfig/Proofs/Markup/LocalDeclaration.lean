import SafetyConfig.Markup.Subset
import SafetyConfig.Proofs.Markup.Local

/-!
# How far declarations are looked at

The tokens of declarations end where the next character says so, and declarations are read token by
token. So all of a document type is settled by the characters up to its end and the next one.
-/

namespace SafetyConfig.Markup

open Leaves

namespace DeclToken

variable {letters : Alphabet} {xs ys : List Char}

theorem endsName_congr (h : xs.head? = ys.head?) : endsName xs = endsName ys := by
  cases xs <;> cases ys <;> simp_all [endsName]

theorem endsWord_congr (h : xs.head? = ys.head?) : endsWord xs = endsWord ys := by
  cases xs <;> cases ys <;> simp_all [endsWord]

theorem endsLiteral_congr (h : xs.head? = ys.head?) : endsLiteral xs = endsLiteral ys := by
  cases xs <;> cases ys <;> simp_all [endsLiteral]

theorem local_readLiteral (quote : Char) :
    Local 1 (readLiteral quote) fun _ => readLiteral quote :=
  .bind (local_readUntilQuote quote) (q := 0) fun ⟨_, _⟩ => .done_if endsLiteral_congr

theorem local_readWord (letters : Alphabet) :
    Local 1 (readWord letters) fun _ => readWord letters :=
  .bind (local_readName letters) (q := 0) fun ⟨_, _⟩ => .done_if endsWord_congr

theorem local_readPercent : Local 0 readPercent fun _ => readPercent := by
  intro cs b h
  cases cs with
  | nil =>
    cases h
    refine .nothing (b := (percent, [])) fun _ tail htail => ?_
    rw [List.head?_eq_none_iff.mp htail]
    rfl
  | cons c cs =>
    simp only [readPercent] at h
    split at h
    · rename_i hc
      cases h
      refine .nothing (b := (percent, c :: cs)) fun _ tail htail => ?_
      obtain ⟨tail, rfl⟩ := List.head?_eq_some_iff.mp htail
      exact if_pos hc
    · cases h

theorem local_readGroupEnd : Local 0 readGroupEnd fun _ => readGroupEnd := by
  intro cs b h
  cases cs with
  | nil =>
    cases h
    refine .nothing (b := (closeParen none, [])) fun _ tail htail => ?_
    rw [List.head?_eq_none_iff.mp htail]
    rfl
  | cons c cs =>
    simp only [readGroupEnd] at h
    split at h
    · rename_i hc
      cases h
      exact .only (b := (closeParen (some c), cs)) [c] (Nat.zero_le 1) fun _ tail => if_pos hc
    · rename_i hc
      split at h
      · rename_i hend
        cases h
        refine .nothing (b := (closeParen none, c :: cs)) fun _ tail htail => ?_
        obtain ⟨tail, rfl⟩ := List.head?_eq_some_iff.mp htail
        simp only [readGroupEnd, if_neg hc]
        exact if_pos hend
      · cases h

/-- What starts like a name takes at least that character. -/
theorem local_readNameLike {c : Char} (hc : isNameOrColon letters c = true) :
    Local 0 (fun r => readNameLike letters (c :: r)) fun _ r => readNameLike letters (c :: r) := by
  intro cs b h
  obtain ⟨chars, r, hspan⟩ : ∃ chars r, (c :: cs).span (isNameOrColon letters) = (chars, r) :=
    ⟨_, _, rfl⟩
  obtain ⟨c', front, rfl⟩ := List.exists_cons_of_ne_nil (ne_nil_of_span hc hspan)
  obtain ⟨rfl, hcs⟩ := List.cons.inj (append_of_span hspan)
  rw [List.append_eq] at hcs
  subst hcs
  -- The run of characters ends at the same place before every text that goes on alike.
  have hrun : ∀ tail, tail.head? = r.head? →
      (c :: (front ++ tail)).span (isNameOrColon letters) = (c :: front, tail) :=
    fun tail htail => span_append hspan htail
  simp only [readNameLike, hrun r rfl] at h
  split at h
  · rename_i hend
    cases h
    refine ⟨front, rfl, Nat.zero_le _, fun _ _ tail htail => ?_⟩
    simp only [readNameLike, hrun tail htail, (endsName_congr htail).trans hend, if_true, withRest]
  · rename_i hend
    split at h
    · cases h
    · rename_i mark rest hkind
      split at h
      · rename_i hmark
        cases h
        refine ⟨front ++ [mark], by simp [Leaves.rest], Nat.zero_le _, fun _ _ tail _ => ?_⟩
        have hend' : endsName (mark :: tail) = false := by simpa [endsName] using hend
        simp only [readNameLike, List.append_assoc, List.singleton_append, hrun (mark :: tail) rfl,
          hend', hmark, Bool.false_eq_true, if_false, if_true, withRest]
      · cases h
    · cases h

theorem local_next (letters : Alphabet) : Local 1 (next letters) fun _ => next letters := by
  refine .of_space (p := 0) (fun cs => ?_) (fun _ cs => ?_) nofun fun c hc => ?_
  · simp only [next, skipSpace_skipSpace]
  · simp only [next, skipSpace_skipSpace]
  have hskip := skipSpace_cons hc
  refine .of_eq ?_ (fun r => by rw [next, hskip]) fun _ r => by rw [next, hskip]
  -- Which of them it is depends on the first character alone.
  refine .ite (fun _ => (local_readLiteral c).mono (Nat.zero_le 1)) fun _ => ?_
  refine .ite (fun _ => local_readPercent) fun _ => ?_
  refine .ite (fun _ => (local_readWord letters).mono (Nat.zero_le 1)) fun _ => ?_
  refine .ite (fun _ => .done comma) fun _ => ?_
  refine .ite (fun _ => .done bar) fun _ => ?_
  refine .ite (fun _ => .done openParen) fun _ => ?_
  refine .ite (fun _ => local_readGroupEnd) fun _ => ?_
  refine .ite (fun _ => .done openBracket) fun _ => ?_
  refine .ite (fun _ => .done closeBracket) fun _ => ?_
  refine .ite (fun _ => .done close) fun _ => ?_
  exact .ite local_readNameLike fun _ => .error

end DeclToken

theorem local_expect (letters : Alphabet) (token : DeclToken) :
    Local 1 (expect letters token) fun _ => expect letters token := by
  unfold expect
  refine .bind (DeclToken.local_next letters) (q := 0) fun ⟨t, _⟩ => ?_
  dsimp only [withRest]
  split
  · exact .done_rest
  · exact .error

theorem local_close (letters : Alphabet) :
    Local 0 (expect letters .close) fun _ => expect letters .close :=
  (local_expect letters .close).mono (Nat.zero_le 1)

theorem local_readLiteralToken (letters : Alphabet) :
    Local 1 (readLiteralToken letters) fun _ => readLiteralToken letters := by
  unfold readLiteralToken
  refine .bind (DeclToken.local_next letters) (q := 0) fun ⟨t, _⟩ => ?_
  cases t with
  | literal chars => exact .done chars
  | _ => exact .error

/-- It is up to the word alone whether identifiers are read. -/
theorem local_readExternalId (letters : Alphabet) (word : List Char) :
    (∀ cs, readExternalId? letters word cs = none) ∨
      ∃ scan : Reader (ExternalId × List Char), Local 1 scan (fun _ => scan) ∧
        ∀ cs, readExternalId? letters word cs = some (scan cs) := by
  unfold readExternalId?
  by_cases hsystem : word = "SYSTEM".toList
  · refine .inr ⟨_, ?_, fun cs => if_pos hsystem⟩
    exact .bind (local_readLiteralToken letters) (q := 0) fun ⟨systemId, _⟩ =>
      .done (ExternalId.mk none systemId)
  by_cases hpublic : word = "PUBLIC".toList
  · refine .inr ⟨_, ?_, fun cs => (if_neg hsystem).trans (if_pos hpublic)⟩
    refine .bind (local_readLiteralToken letters) (q := 0) fun ⟨publicId, _⟩ => ?_
    refine .check fun _ => ?_
    exact .bind_zero (local_readLiteralToken letters) fun ⟨systemId, _⟩ =>
      .done (ExternalId.mk (some (normalizePublicId publicId)) systemId)
  · exact .inl fun cs => (if_neg hsystem).trans (if_neg hpublic)

theorem local_readEntity (d : Doctype) : Local 1 (readEntity d) fun _ => readEntity d := by
  unfold readEntity
  refine .bind (DeclToken.local_next d.letters) (q := 0) fun ⟨token, _⟩ => ?_
  dsimp only [withRest]
  cases token
  case' percent =>
    refine .bind_zero (DeclToken.local_next d.letters) fun ⟨token, _⟩ => ?_
    cases token
  -- The name is there by itself or behind a percent sign; what follows is read alike.
  case name name | percent.name name =>
    simp only [withRest, pure_bind]
    refine .bind_zero (DeclToken.local_next d.letters) fun ⟨token, _⟩ => ?_
    cases token with
    | literal value =>
      refine .check fun _ => ?_
      exact .ite (fun _ => .check fun _ => local_close d.letters) fun _ => local_close d.letters
    | name word =>
      dsimp only [withRest]
      rcases local_readExternalId d.letters word with hnone | ⟨scan, hscan, hsome⟩
      · simp only [hnone]
        exact .error
      simp only [hsome]
      refine .bind_zero hscan fun ⟨external, _⟩ => ?_
      dsimp only [withRest]
      refine .bind_zero (DeclToken.local_next d.letters) fun ⟨token, _⟩ => ?_
      cases token with
      | close => exact .check fun _ => .done_rest
      | name word =>
        refine .ite (fun _ => .error) fun _ => ?_
        refine .bind_zero (DeclToken.local_next d.letters) fun ⟨token, _⟩ => ?_
        cases token with
        | name chars => exact .check fun _ => local_close d.letters
        | _ => exact .error
      | _ => exact .error
    | _ => exact .error
  all_goals exact .error

theorem local_readNotation (letters : Alphabet) :
    Local 1 (readNotation letters) fun _ => readNotation letters := by
  unfold readNotation
  refine .bind (DeclToken.local_next letters) (q := 0) fun ⟨token, _⟩ => ?_
  cases token with
  | name name =>
    refine .bind_zero (DeclToken.local_next letters) fun ⟨token, _⟩ => ?_
    cases token with
    | name word =>
      refine .ite (fun _ => ?_) fun _ => .ite (fun _ => ?_) fun _ => .error
      · exact .bind_zero (local_readLiteralToken letters) fun ⟨_, _⟩ => local_close letters
      · refine .bind_zero (local_readLiteralToken letters) fun ⟨publicId, _⟩ => ?_
        refine .check fun _ => ?_
        refine .bind_zero (DeclToken.local_next letters) fun ⟨token, _⟩ => ?_
        cases token with
        | close => exact .done_rest
        | literal systemId => exact local_close letters
        | _ => exact .error
    | _ => exact .error
  | _ => exact .error

/-! Content models. -/

theorem local_readMixed (letters : Alphabet) (fuel : Nat) :
    Local 0 (readMixed letters fuel) (readMixed letters) := by
  induction fuel with
  | zero => exact .error
  | succ fuel ih =>
    refine .of_step_eq ?_ (fun _ => by rw [readMixed]) fun _ _ => by rw [readMixed]
    refine .bind (DeclToken.local_next letters) (q := 0) fun ⟨token, _⟩ => ?_
    refine .ite (fun _ => .error) fun _ => ?_
    refine .bind_zero (DeclToken.local_next letters) fun ⟨token, _⟩ => ?_
    cases token with
    | bar => exact ih
    | closeParen mark =>
      by_cases hstar : mark = some '*'
      · subst hstar
        exact .done_rest
      · intro cs b h
        dsimp only [withRest] at h
        split at h
        · rename_i heq
          cases heq
        · rename_i heq
          cases heq
          exact absurd rfl hstar
        · cases h
    | _ => exact .error

/-- What follows `#PCDATA` in a content model. -/
def readPcdata (letters : Alphabet) (fuel : Nat) (word cs : List Char) :
    Except MarkupError (List Char) := do
  if word != "PCDATA".toList then throw .malformed
  match ← DeclToken.next letters cs with
  | (.closeParen none, rest) => return rest
  | (.closeParen (some '*'), rest) => return rest
  | (.bar, rest) => readMixed letters fuel rest
  | _ => throw .malformed

theorem local_readPcdata (letters : Alphabet) (fuel : Nat) (word : List Char) :
    Local 0 (readPcdata letters fuel word) fun fuel => readPcdata letters fuel word := by
  refine .ite (fun _ => .error) fun _ => ?_
  refine .bind_zero (DeclToken.local_next letters) fun ⟨token, _⟩ => ?_
  cases token with
  | bar => exact local_readMixed letters fuel
  | closeParen mark =>
    by_cases hmark : mark = none ∨ mark = some '*'
    · rcases hmark with rfl | rfl <;> exact .done_rest
    · intro cs b h
      dsimp only [withRest] at h
      split at h
      · rename_i heq
        cases heq
        exact absurd (.inl rfl) hmark
      · rename_i heq
        cases heq
        exact absurd (.inr rfl) hmark
      · rename_i heq
        cases heq
      · cases h
  | _ => exact .error

/-- What follows the token that opens an item of the innermost group. -/
def readItem (letters : Alphabet) (fuel : Nat) (groups : List (Option Separator)) :
    DeclToken → Reader (List Char)
  | .openParen, cs => readGroups letters fuel true (none :: groups) cs
  | .name _, cs => readGroups letters fuel false groups cs
  | .qualified _, cs => readGroups letters fuel false groups cs
  | .repeated _, cs => readGroups letters fuel false groups cs
  | _, _ => .error .malformed

theorem readGroups_item (letters : Alphabet) (fuel : Nat) (seen : Option Separator)
    (outer : List (Option Separator)) (cs : List Char) :
    readGroups letters (fuel + 1) true (seen :: outer) cs =
      DeclToken.next letters cs >>= fun b => readItem letters fuel (seen :: outer) b.1 b.2 := by
  rw [readGroups]
  · cases DeclToken.next letters cs with
    | error e => rfl
    | ok b =>
      obtain ⟨token, rest⟩ := b
      cases token <;> rfl
  · exact nofun

theorem local_readGroups (letters : Alphabet) (fuel : Nat) (wantsItem : Bool)
    (groups : List (Option Separator)) :
    Local 0 (readGroups letters fuel wantsItem groups)
      fun fuel => readGroups letters (fuel + 1) wantsItem groups := by
  induction fuel generalizing wantsItem groups with
  | zero => exact .of_eq .error (fun _ => rfl) fun _ _ => rfl
  | succ fuel ih =>
    cases groups with
    | nil =>
      refine .of_eq .done_rest (fun _ => ?_) fun _ _ => ?_
      · rw [readGroups]
        rfl
      · rw [readGroups]
        rfl
    | cons seen outer =>
      cases wantsItem with
      | true =>
        refine .of_step_eq ?_ (readGroups_item letters fuel seen outer)
          fun fuel => readGroups_item letters (fuel + 1) seen outer
        refine .bind (DeclToken.local_next letters) (q := 0) fun ⟨token, _⟩ => ?_
        cases token with
        | openParen | name _ | qualified _ | repeated _ => exact ih _ _
        | _ => exact .error
      | false =>
        refine .of_step_eq ?_ (fun _ => by rw [readGroups]) fun _ _ => by rw [readGroups]
        refine .bind (DeclToken.local_next letters) (q := 0) fun ⟨token, _⟩ => ?_
        cases token with
        | closeParen _ => exact ih _ _
        | comma | bar => exact .ite (fun _ => .error) fun _ => ih _ _
        | _ => exact .error

/-- What follows the first token of a content model that is a group. -/
def readItems (letters : Alphabet) : Nat → DeclToken → Reader (List Char)
  | 0, _, _ => .error .malformed
  | fuel + 1, token, cs => readItem letters fuel [none] token cs

/-- The first token of a group does not have to be read twice. -/
theorem readModel_eq (letters : Alphabet) (fuel : Nat) (cs : List Char) :
    readModel letters fuel cs = DeclToken.next letters cs >>= fun b =>
      match b.1 with
      | .word word => readPcdata letters fuel word b.2
      | token => readItems letters fuel token b.2 := by
  rw [readModel]
  cases hnext : DeclToken.next letters cs with
  | error e => rfl
  | ok b =>
    obtain ⟨token, rest⟩ := b
    cases fuel with
    | zero => cases token <;> rfl
    | succ fuel =>
      rw [readGroups_item, hnext]
      cases token <;> rfl

theorem local_readItems (letters : Alphabet) (fuel : Nat) (token : DeclToken) :
    Local 0 (readItems letters fuel token) fun fuel => readItems letters (fuel + 2) token := by
  cases fuel with
  | zero => exact .error
  | succ fuel =>
    cases token with
    | openParen | name _ | qualified _ | repeated _ => exact local_readGroups letters fuel _ _
    | _ => exact .error

theorem local_readModel (letters : Alphabet) (fuel : Nat) :
    Local 0 (readModel letters fuel) fun fuel => readModel letters (fuel + 1) := by
  refine .of_step_eq ?_ (readModel_eq letters fuel) fun fuel => readModel_eq letters (fuel + 2)
  refine .bind (DeclToken.local_next letters) (q := 0) fun ⟨token, _⟩ => ?_
  cases token with
  | word word => exact (local_readPcdata letters fuel word).succ.succ
  | _ => exact local_readItems letters fuel _

theorem local_readElement (letters : Alphabet) (fuel : Nat) :
    Local 1 (readElement letters fuel) fun fuel => readElement letters (fuel + 1) := by
  unfold readElement
  refine .bind (DeclToken.local_next letters) (q := 0) fun ⟨token, _⟩ => ?_
  refine .ite (fun _ => .error) fun _ => ?_
  refine .bind_zero (DeclToken.local_next letters) fun ⟨token, _⟩ => ?_
  cases token with
  | name word => exact .ite (fun _ => .error) fun _ => local_close letters
  | openParen => exact .bind_zero (local_readModel letters fuel) fun _ => local_close letters
  | _ => exact .error

/-! Attribute lists. -/

theorem local_readChoices (letters : Alphabet) (accepts : DeclToken → Bool) (fuel : Nat) :
    Local 0 (readChoices letters accepts fuel) (readChoices letters accepts) := by
  induction fuel with
  | zero => exact .error
  | succ fuel ih =>
    refine .of_step_eq ?_ (fun _ => by rw [readChoices]) fun _ _ => by rw [readChoices]
    refine .bind (DeclToken.local_next letters) (q := 0) fun ⟨token, _⟩ => ?_
    refine .ite (fun _ => .error) fun _ => ?_
    refine .bind_zero (DeclToken.local_next letters) fun ⟨token, _⟩ => ?_
    cases token with
    | bar => exact ih
    | closeParen mark =>
      cases mark with
      | none => exact .done_rest
      | some _ => exact .error
    | _ => exact .error

theorem local_readAttributeType (letters : Alphabet) (fuel : Nat) :
    Local 1 (readAttributeType letters fuel) (readAttributeType letters) := by
  have hchoices : ∀ accepts, Local 0
      (fun r => readChoices letters accepts fuel r >>= fun r => pure (true, r))
      fun fuel r => readChoices letters accepts fuel r >>= fun r => pure (true, r) :=
    fun accepts => .bind_zero (local_readChoices letters accepts fuel) fun _ => .done true
  unfold readAttributeType
  refine .bind (DeclToken.local_next letters) (q := 0) fun ⟨token, _⟩ => ?_
  cases token with
  | openParen => exact hchoices isToken
  | name word =>
    refine .ite (fun _ => .done false) fun _ => ?_
    refine .ite (fun _ => .done true) fun _ => ?_
    refine .ite (fun _ => ?_) fun _ => .error
    refine .bind_zero (DeclToken.local_next letters) fun ⟨token, _⟩ => ?_
    cases token with
    | openParen => exact hchoices isPlainName
    | _ => exact .error
  | _ => exact .error

theorem local_readDefault (d : Doctype) (tokenized : Bool) :
    Local 1 (readDefault d tokenized) fun _ => readDefault d tokenized := by
  unfold readDefault
  refine .bind (DeclToken.local_next d.letters) (q := 0) fun ⟨token, _⟩ => ?_
  cases token with
  | literal written => exact .check fun default => .done default
  | word word =>
    refine .ite (fun _ => .done none) fun _ => ?_
    refine .ite (fun _ => ?_) fun _ => .error
    refine .bind_zero (local_readLiteralToken d.letters) fun ⟨written, _⟩ => ?_
    exact .check fun default => .done default
  | _ => exact .error

theorem local_readAttributes (element : List Char) (fuel : Nat) (d : Doctype) :
    Local 0 (readAttributes element fuel d) fun fuel => readAttributes element fuel d := by
  induction fuel generalizing d with
  | zero => exact .error
  | succ fuel ih =>
    refine .of_step_eq ?_ (fun _ => by rw [readAttributes]) fun _ _ => by rw [readAttributes]
    refine .bind (DeclToken.local_next d.letters) (q := 0) fun ⟨token, _⟩ => ?_
    cases token with
    | close => exact .done d
    | name name | qualified name =>
      refine .bind_zero (local_readAttributeType d.letters fuel) fun ⟨tokenized, _⟩ => ?_
      refine .bind_zero (local_readDefault d tokenized) fun ⟨default, _⟩ => ?_
      exact ih _
    | _ => exact .error

theorem local_readAttributeList (fuel : Nat) (d : Doctype) :
    Local 1 (readAttributeList fuel d) fun fuel => readAttributeList fuel d := by
  unfold readAttributeList
  refine .bind (DeclToken.local_next d.letters) (q := 0) fun ⟨token, _⟩ => ?_
  cases token with
  | name element | qualified element => exact local_readAttributes element fuel d
  | _ => exact .error

/-! The declarations between the brackets. -/

theorem local_readKeyword : Local 1 readKeyword fun _ => readKeyword := by
  rintro cs ⟨word, rest⟩ h
  rw [readKeyword] at h
  split at h
  · rename_i word' c rest' hspan
    split at h
    · rename_i hword
      cases h
      have hne : word ≠ [] := by
        rintro rfl
        simp at hword
      refine ⟨word, append_of_span hspan, List.length_pos_iff.mpr hne, fun _ _ tail htail => ?_⟩
      obtain ⟨tail, rfl⟩ := List.head?_eq_some_iff.mp htail
      simp only [readKeyword, span_append hspan htail, hword, if_true, withRest]
    · cases h
  · cases h

theorem local_readDeclaration (fuel : Nat) (d : Doctype) :
    Local 2 (readDeclaration fuel d) fun fuel => readDeclaration (fuel + 1) d := by
  unfold readDeclaration
  refine .bind local_readKeyword (q := 1) fun ⟨word, _⟩ => ?_
  refine .ite (fun _ => .bind (local_readEntity d) (q := 0) fun _ => .done d) fun _ => ?_
  refine .ite (fun _ => (local_readAttributeList fuel d).succ) fun _ => ?_
  refine .ite (fun _ => .bind (local_readElement d.letters fuel) (q := 0) fun _ => .done d)
    fun _ => ?_
  exact .ite (fun _ => .bind (local_readNotation d.letters) (q := 0) fun _ => .done d)
    fun _ => .error

theorem readDeclaration_dash (fuel : Nat) (d : Doctype) (cs : List Char) :
    readDeclaration fuel d ('-' :: cs) = .error .malformed := rfl

theorem readSubset_skipSpace (fuel : Nat) (d : Doctype) (cs : List Char) :
    readSubset fuel d (skipSpace cs) = readSubset fuel d cs := by
  cases fuel with
  | zero => rfl
  | succ fuel => simp only [readSubset, skipSpace_skipSpace]

theorem readSubset_declaration (fuel : Nat) (d : Doctype) {cs : List Char}
    (h : cs.head? ≠ some '-') :
    readSubset (fuel + 1) d ('<' :: '!' :: cs) =
      readDeclaration fuel d cs >>= fun b => readSubset fuel b.1 b.2 := by
  rw [readSubset, skipSpace_cons (by decide)]
  split
  all_goals simp_all

/-- What follows the sign of a reference in a subset. -/
def readReferenced (fuel : Nat) (d : Doctype) (cs : List Char) :
    Except MarkupError (Doctype × List Char) := do
  match ← readName d.letters cs with
  | (_, ';' :: rest) => readSubset fuel d.afterReference rest
  | _ => throw .malformed

theorem local_readSubset (fuel : Nat) (d : Doctype) :
    Local 0 (readSubset fuel d) fun fuel => readSubset (fuel + 1) d := by
  induction fuel generalizing d with
  | zero => exact .error
  | succ fuel ih =>
    refine .of_step fun cs b h => ?_
    refine .of_skipSpace (fun fuel => readSubset_skipSpace (fuel + 2) d) ?_
    rw [readSubset] at h
    split at h
    · rename_i rest hrest
      cases h
      rw [hrest]
      exact .only (b := (d, rest)) [']'] (Nat.le_refl 1) fun _ _ => rfl
    · rename_i rest hrest
      have hcomment : Local 0 (fun r => skipComment r >>= readSubset fuel d)
          fun fuel r => skipComment r >>= readSubset (fuel + 1) d :=
        .bind_zero local_skipComment fun _ => ih d
      rw [hrest]
      exact (hcomment rest b h).behind ['<', '!', '-', '-'] (by simp) fun _ _ _ => rfl
    · rename_i rest hrest
      have hinstruction : Local 1 (fun r => readInstruction d.letters r >>= readSubset fuel d)
          fun fuel r => readInstruction d.letters r >>= readSubset (fuel + 1) d :=
        .bind (local_readInstruction d.letters) (q := 0) fun _ => ih d
      rw [hrest]
      exact (hinstruction rest b h).behind ['<', '?'] (by simp) fun _ _ _ => rfl
    · rename_i rest _ hrest
      have hdeclaration : Local 2
          (fun r => readDeclaration fuel d r >>= fun b => readSubset fuel b.1 b.2)
          fun fuel r => readDeclaration (fuel + 1) d r >>= fun b => readSubset (fuel + 1) b.1 b.2 :=
        .bind (local_readDeclaration fuel d) (q := 0) fun ⟨d, _⟩ => ih d
      have hdash : rest.head? ≠ some '-' := by
        intro hhead
        obtain ⟨cs, rfl⟩ := List.head?_eq_some_iff.mp hhead
        rw [readDeclaration_dash] at h
        cases h
      rw [hrest]
      refine (hdeclaration rest b h).behind ['<', '!'] (by simp) fun fuel tail htail => ?_
      exact readSubset_declaration (fuel + 1) d (htail ▸ hdash)
    · rename_i rest hrest
      rw [hrest]
      obtain ⟨⟨name, rest'⟩, hname, hend⟩ := bind_eq_ok_iff.mp h
      split at hend
      · rename_i heq
        cases heq
        have hreference : Takes 1 (fun fuel => readReferenced (fuel + 1) d) rest b := by
          refine (local_readName d.letters rest _ hname).bind (q := 1) ?_ (by simp)
          exact (ih d.afterReference _ b hend).behind [';'] (by simp) fun _ _ _ => rfl
        exact hreference.behind ['%'] (by simp) fun _ _ _ => rfl
      · cases hend
    · cases h

/-- The subset and what ends the declaration. -/
def readBrackets (fuel : Nat) (d : Doctype) (cs : List Char) :
    Except MarkupError (Doctype × List Char) := do
  let (d, rest) ← readSubset fuel d cs
  return (d, ← expect d.letters .close rest)

theorem local_readBrackets (fuel : Nat) (d : Doctype) :
    Local 1 (readBrackets fuel d) fun fuel => readBrackets (fuel + 1) d :=
  .bind (local_readSubset fuel d) (q := 1) fun ⟨d, _⟩ =>
    .bind (local_expect d.letters .close) (q := 0) fun _ => .done d

/-- As much fuel as there are characters is enough, since the subset is not all of them. -/
theorem local_readBrackets_length (d : Doctype) :
    Local 0 (fun r => readBrackets r.length d r) fun _ r => readBrackets r.length d r := by
  intro cs b h
  obtain ⟨used, hcs, hlength, hused⟩ := local_readBrackets cs.length d cs b h
  refine ⟨used, hcs, Nat.zero_le _, fun _ _ tail htail => ?_⟩
  obtain ⟨fuel, hfuel⟩ : ∃ fuel, (used ++ tail).length = fuel + 1 :=
    Nat.exists_eq_succ_of_ne_zero (by rw [List.length_append]; omega)
  dsimp only
  rw [hfuel]
  refine hused fuel ?_ tail htail
  rw [← hfuel, List.length_append]
  omega

theorem local_readDoctype (d : Doctype) : Local 1 (readDoctype d) fun _ => readDoctype d := by
  unfold readDoctype
  refine .bind (DeclToken.local_next d.letters) (q := 0) fun ⟨token, _⟩ => ?_
  refine .ite (fun _ => .error) fun _ => ?_
  refine .bind_zero (DeclToken.local_next d.letters) fun ⟨token, _⟩ => ?_
  cases token with
  | name word =>
    dsimp only [withRest]
    rcases local_readExternalId d.letters word with hnone | ⟨scan, hscan, hsome⟩
    · simp only [hnone]
      exact .error
    simp only [hsome]
    refine .bind_zero hscan fun _ => ?_
    refine .bind_zero (DeclToken.local_next d.letters) fun ⟨token, _⟩ => ?_
    cases token with
    | close => exact .done d.withOutside
    | openBracket => exact local_readBrackets_length d.withOutside
    | _ => exact .error
  | close => exact .done d
  | openBracket => exact local_readBrackets_length d
  | _ => exact .error

end SafetyConfig.Markup
