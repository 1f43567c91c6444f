import SafetyConfig.Markup.Declaration
import SafetyConfig.Proofs.Markup.Characters
import SafetyConfig.Proofs.Markup.Local

/-!
# From bytes to a manuscript

The first three bytes show an encoding. A declaration is made of ASCII characters, so that the bytes
behind it are found whatever they are, and its own end is all that it needs.
-/

namespace SafetyConfig

open Lowercase (Ascii)

namespace Encoding

theorem exists_mark (bytes : Bytes) : ∃ mark, bytes = mark ++ (detect bytes).2 := by
  unfold detect
  split
  · exact ⟨[0xFE, 0xFF], rfl⟩
  · exact ⟨[0xFF, 0xFE], rfl⟩
  · exact ⟨[0xEF, 0xBB, 0xBF], rfl⟩
  · refine ⟨[], ?_⟩
    split
    · rfl
    split <;> rfl
  · exact ⟨[], rfl⟩

theorem detect_append {front : Bytes} (h : 3 ≤ front.length) (bs : Bytes) :
    detect (front ++ bs) = ((detect front).1, (detect front).2 ++ bs) := by
  match front with
  | a :: b :: c :: front =>
    simp only [List.cons_append]
    by_cases hbig : a = 0xFE ∧ b = 0xFF
    · obtain ⟨rfl, rfl⟩ := hbig
      rfl
    by_cases hlittle : a = 0xFF ∧ b = 0xFE
    · obtain ⟨rfl, rfl⟩ := hlittle
      rfl
    by_cases hutf8 : a = 0xEF ∧ b = 0xBB ∧ c = 0xBF
    · obtain ⟨rfl, rfl, rfl⟩ := hutf8
      rfl
    -- Without a byte order mark the first two bytes count, and all are kept.
    have hplain : ∀ xs, detect (a :: b :: c :: xs) =
        if a = 0 then (.utf16 .big, a :: b :: c :: xs)
        else if b = 0 then (.utf16 .little, a :: b :: c :: xs)
        else (.utf8, a :: b :: c :: xs) := by
      intro xs
      rw [detect]
      · exact fun ha hb => hbig ⟨ha, hb⟩
      · exact fun ha hb => hlittle ⟨ha, hb⟩
      · exact fun bs ha hb hc => hutf8 ⟨ha, hb, (List.cons.inj hc).1⟩
    rw [hplain, hplain]
    split_ifs <;> rfl

/-- What shows the encoding is there whatever follows it. -/
theorem detect_of_append {mark head tail : Bytes} {shown : Encoding}
    (h : detect (mark ++ (head ++ tail)) = (shown, head ++ tail)) (hhead : 3 ≤ head.length)
    (more : Bytes) : detect (mark ++ (head ++ more)) = (shown, head ++ more) := by
  have hfront : 3 ≤ (mark ++ head).length := by
    rw [List.length_append]
    omega
  rw [← List.append_assoc, detect_append hfront] at h ⊢
  obtain ⟨hshown, hrest⟩ := Prod.mk.inj h
  rw [hshown, List.append_cancel_right hrest]

end Encoding

namespace Markup

variable {letters : Alphabet} {cs text rest front back : List Char} {c : Char}

theorem ascii_append (h : Ascii front) (h' : Ascii back) : Ascii (front ++ back) := by
  intro c hc
  rcases List.mem_append.mp hc with hc | hc
  · exact h c hc
  · exact h' c hc

theorem ascii_cons (hc : c.toNat < 0x80) (h : Ascii cs) : Ascii (c :: cs) :=
  List.forall_mem_cons.mpr ⟨hc, h⟩

theorem toNat_of_isSpace (h : isSpace c = true) : c.toNat < 0x80 := by
  simp only [isSpace, Bool.or_eq_true, decide_eq_true_eq] at h
  rcases h with ((rfl | rfl) | rfl) | rfl <;> decide

theorem ascii_of_skipSpace (h : Ascii (skipSpace cs)) : Ascii cs := by
  have hspace : Ascii (cs.takeWhile isSpace) :=
    fun c hc => toNat_of_isSpace (List.mem_takeWhile_imp hc)
  rw [← List.takeWhile_append_dropWhile (p := isSpace) (l := cs)]
  exact ascii_append hspace h

namespace Declaration

/-! Where a declaration starts and ends. -/

theorem after?_append {start : List Char} (hstart : '>' ∉ start) (h : '>' ∈ front)
    (cs : List Char) : after? start (front ++ cs) = (after? start front).map (· ++ cs) ∧
      ∀ r, after? start front = some r → '>' ∈ r := by
  induction start generalizing front with
  | nil => exact ⟨rfl, by rintro _ ⟨⟩; exact h⟩
  | cons a start ih =>
    obtain ⟨c, front, rfl⟩ := List.exists_cons_of_ne_nil (List.ne_nil_of_mem h)
    simp only [List.cons_append, after?]
    split
    · rename_i hac
      subst hac
      have ha : '>' ≠ a := fun ha => hstart (ha ▸ List.mem_cons_self)
      have hrest : '>' ∉ start := fun hmem => hstart (List.mem_cons_of_mem a hmem)
      exact ih hrest ((List.mem_cons.mp h).resolve_left ha)
    · exact ⟨rfl, nofun⟩

theorem eq_append_of_after? {start : List Char} (h : after? start cs = some rest) :
    cs = start ++ rest := by
  induction start generalizing cs with
  | nil => exact Option.some.inj h
  | cons a start ih =>
    cases cs with
    | nil => cases h
    | cons c cs =>
      rw [after?] at h
      split at h
      · rename_i hac
        rw [hac, ih h, List.cons_append]
      · cases h

theorem isAtStart_append (letters : Alphabet) (h : '>' ∈ front) (cs : List Char) :
    isAtStart letters (front ++ cs) = isAtStart letters front := by
  have hopening : '>' ∉ opening := by decide
  obtain ⟨hafter, hmem⟩ := after?_append hopening h cs
  unfold isAtStart
  rw [hafter]
  cases hfront : after? opening front with
  | none => rfl
  | some r =>
    obtain ⟨c, r, rfl⟩ := List.exists_cons_of_ne_nil (List.ne_nil_of_mem (hmem r hfront))
    rfl

theorem inside_cons {done : List Char} (h : c = '?' → cs.head? ≠ some '>') :
    inside done (c :: cs) =
      if c = faultMark then .error .malformed else inside (c :: done) cs := by
  rw [inside.eq_def]
  split <;> simp_all

theorem inside_append {done : List Char} (h : inside done cs = .ok text) :
    ∃ inner back, text = done.reverse ++ inner ∧ cs = inner ++ '?' :: '>' :: back ∧
      ∀ more, inside done (inner ++ '?' :: '>' :: more) = .ok text := by
  induction cs generalizing done with
  | nil => cases h
  | cons c cs ih =>
    by_cases hend : c = '?' → cs.head? ≠ some '>'
    · rw [inside_cons hend] at h
      split at h
      · cases h
      · rename_i hmark
        obtain ⟨inner, back, rfl, rfl, hinner⟩ := ih h
        refine ⟨c :: inner, back, by simp, rfl, fun more => ?_⟩
        have hhead : (inner ++ '?' :: '>' :: more).head? = (inner ++ '?' :: '>' :: back).head? :=
          head?_append_congr rfl
        rw [List.cons_append, inside_cons (hhead ▸ hend), if_neg hmark]
        exact hinner more
    · obtain ⟨rfl, hhead⟩ : c = '?' ∧ cs.head? = some '>' := by simpa using hend
      obtain ⟨cs, rfl⟩ := List.head?_eq_some_iff.mp hhead
      cases h
      exact ⟨[], cs, by simp, rfl, fun _ => rfl⟩

/-! What is inside. -/

theorem toNat_of_isValueChar (h : isValueChar c = true) : c.toNat < 0x80 := by
  have hbound : ∀ last : Char, last.toNat < 0x80 → c.val ≤ last.val → c.toNat < 0x80 :=
    fun last hlast hle => Nat.lt_of_le_of_lt (UInt32.le_iff_toNat_le.mp hle) hlast
  simp only [isValueChar, Bool.or_eq_true, decide_eq_true_eq] at h
  rcases h with ((h | rfl) | rfl) | rfl
  · rcases Bool.or_eq_true_iff.mp h with hletter | hdigit
    · rcases Bool.or_eq_true_iff.mp hletter with hupper | hlower
      · exact hbound 'Z' (by decide) (of_decide_eq_true hupper).2
      · exact hbound 'z' (by decide) (of_decide_eq_true (Bool.and_eq_true_iff.mp hlower).2)
    · exact hbound '9' (by decide) (of_decide_eq_true (Bool.and_eq_true_iff.mp hdigit).2)
  all_goals decide

theorem ascii_of_readPart {part : Option (List Char × List Char)}
    (h : readPart cs = .ok (part, rest)) (hpart : ∀ p, part = some p → Ascii p.1 ∧ Ascii rest) :
    Ascii cs := by
  have hnil : Ascii [] := fun _ hc => by cases hc
  unfold readPart at h
  split at h
  · exact hnil
  · rename_i c r
    split at h
    · cases h
    refine ascii_of_skipSpace ?_
    generalize skipSpace (c :: r) = cs at h ⊢
    split at h
    · exact hnil
    obtain ⟨name, r', hspan⟩ :
        ∃ name r', cs.span (fun c => c != '=' && !isSpace c) = (name, r') := ⟨_, _, rfl⟩
    rw [append_of_span hspan]
    simp only [hspan] at h
    split at h
    · rename_i r₁ hequals
      split at h
      · rename_i quote r₂ hquote
        split at h
        · cases h
        rename_i hquotes
        split at h
        · rename_i value c r₃ hvalue
          split at h
          · rename_i hc
            cases h
            subst hc
            obtain ⟨hname, hrest⟩ := hpart _ rfl
            have hc : c.toNat < 0x80 := by
              by_cases hdouble : c = '"'
              · subst hdouble
                decide
              · obtain ⟨-, rfl⟩ : name ≠ [] ∧ c = '\'' := by simpa [hdouble] using hquotes
                decide
            have hvalueAscii : Ascii value :=
              fun c hc => toNat_of_isValueChar (mem_of_span hvalue c hc)
            have hafterQuote : Ascii r₂ := by
              rw [append_of_span hvalue]
              exact ascii_append hvalueAscii (ascii_cons hc hrest)
            have hafterEquals : Ascii r₁ := by
              refine ascii_of_skipSpace ?_
              rw [hquote]
              exact ascii_cons hc hafterQuote
            refine ascii_append hname (ascii_of_skipSpace ?_)
            rw [hequals]
            exact ascii_cons (by decide) hafterEquals
          · cases h
        · cases h
      · cases h
    · cases h

theorem ascii_of_readStandalone {part : List Char × List Char} {b : Bool}
    (h : readStandalone part rest = .ok b) : Ascii part.1 ∧ Ascii rest := by
  unfold readStandalone at h
  split at h
  · cases h
  · rename_i hpart
    obtain ⟨hname, hspace⟩ : part.1 = "standalone".toList ∧ skipSpace rest = [] := by
      simpa [not_or] using hpart
    refine ⟨hname ▸ by decide, ascii_of_skipSpace ?_⟩
    rw [hspace]
    exact fun _ hc => by cases hc

theorem ascii_of_ofInside {x : Option (List Char) × Bool} (h : ofInside cs = .ok x) : Ascii cs := by
  obtain ⟨⟨version, r₁⟩, hversion, h⟩ := bind_eq_ok_iff.mp h
  cases version with
  | none => cases h
  | some version =>
    dsimp only at h
    split at h
    · cases h
    rename_i hname
    obtain ⟨⟨second, r₂⟩, hsecond, h⟩ := bind_eq_ok_iff.mp h
    have hversionName : Ascii version.1 := by
      rw [show version.1 = "version".toList by simpa using hname]
      decide
    refine ascii_of_readPart hversion ?_
    rintro _ ⟨⟩
    refine ⟨hversionName, ascii_of_readPart hsecond ?_⟩
    rintro ⟨name, value⟩ rfl
    dsimp only at h
    split at h
    · rename_i hencoding
      split at h
      · cases h
      obtain ⟨⟨third, r₃⟩, hthird, h⟩ := bind_eq_ok_iff.mp h
      have hname : Ascii "encoding".toList := by decide
      refine ⟨hencoding ▸ hname, ascii_of_readPart hthird ?_⟩
      rintro part rfl
      obtain ⟨_, hstandalone, -⟩ := bind_eq_ok_iff.mp h
      exact ascii_of_readStandalone hstandalone
    · obtain ⟨_, hstandalone, -⟩ := bind_eq_ok_iff.mp h
      exact ascii_of_readStandalone hstandalone

/-- A declaration is settled by its own characters, as many as it says. -/
theorem read_append {d : Declaration} (h : read letters cs = .ok (some d)) :
    ∃ inner back, cs = inner ++ '>' :: back ∧ inner.length + 1 = d.length ∧ Ascii inner ∧
      ∀ more, read letters (inner ++ '>' :: more) = .ok (some d) := by
  unfold read at h
  split at h
  · rename_i hstart
    obtain ⟨text, hinside, h⟩ := bind_eq_ok_iff.mp h
    obtain ⟨⟨encoding, standalone⟩, htext, h⟩ := bind_eq_ok_iff.mp h
    cases h
    obtain ⟨inner, back, hinner, hback, hmore⟩ := inside_append hinside
    obtain rfl : text = inner := hinner
    obtain ⟨r, rfl⟩ : ∃ r, cs = opening ++ r := by
      cases hafter : after? opening cs with
      | none =>
        rw [isAtStart, hafter] at hstart
        cases hstart
      | some r => exact ⟨r, eq_append_of_after? hafter⟩
    rw [List.drop_left] at hback
    subst hback
    have hopening : Ascii opening := by decide
    have hmark : Ascii ['?'] := by decide
    have hinside : Ascii text := ascii_of_ofInside htext
    have hends : ∀ more, opening ++ text ++ ['?'] ++ '>' :: more =
        opening ++ (text ++ '?' :: '>' :: more) := fun more => by simp
    refine ⟨opening ++ text ++ ['?'], back, (hends back).symm, ?_,
      ascii_append (ascii_append hopening hinside) hmark, fun more => ?_⟩
    · simp only [List.length_append, List.length_singleton]
    · have hsame : isAtStart letters (opening ++ (text ++ '?' :: '>' :: more)) = true := by
        have hclose : '>' ∈ opening ++ text ++ ['?', '>'] := by simp
        have hbefore := isAtStart_append letters hclose back
        have hafter := isAtStart_append letters hclose more
        simp only [List.append_assoc, List.cons_append, List.nil_append] at hbefore hafter
        rw [hafter, ← hbefore, hstart]
      rw [hends, read, if_pos hsame, List.drop_left, hmore more]
      simp only [ok_bind, htext]
      rfl
  · cases h

theorem read_append_of_none (h : read letters (front ++ back) = .ok none) (hfront : '>' ∈ front)
    (cs : List Char) : read letters (front ++ cs) = .ok none := by
  unfold read at h ⊢
  rw [isAtStart_append letters hfront] at h ⊢
  split at h
  · obtain ⟨text, -, h⟩ := bind_eq_ok_iff.mp h
    obtain ⟨_, -, h⟩ := bind_eq_ok_iff.mp h
    cases h
  · rename_i hstart
    rw [if_neg hstart]

end Declaration

/-! The bytes of a manuscript. -/

section Bytes

variable {mark bs : Bytes} {shown : Encoding} {m : Manuscript} {inner : List Char}

theorem ofBytes_append_of_none (hdetect : Encoding.detect (mark ++ bs) = (shown, bs))
    (hread : Declaration.read (lettersOf shown) (characters shown bs) = .ok none)
    (hchars : characters shown bs = inner ++ '>' :: back) (hinner : 2 ≤ inner.length) :
    ∃ head tail, bs = head ++ tail ∧ ∀ more, Manuscript.ofBytes (mark ++ (head ++ more)) =
      .ok ⟨lettersOf shown, false, inner ++ '>' :: characters shown more⟩ := by
  obtain ⟨head, tail, rfl, hhead, -⟩ := exists_spells hchars
  refine ⟨head, tail, rfl, fun more => ?_⟩
  have hlength : 3 ≤ head.length := Nat.lt_of_le_of_lt hinner hhead.length_lt
  have hcharacters := hhead.characters_append_close more
  have hnone : Declaration.read (lettersOf shown) (inner ++ '>' :: characters shown more) =
      .ok none := by
    rw [hhead.characters_append] at hread
    rw [← hcharacters, hhead.characters_append]
    exact Declaration.read_append_of_none hread (by simp) _
  simp only [Manuscript.ofBytes, Encoding.detect_of_append hdetect hlength more, hcharacters, hnone]

/-- The encoding of what is behind a declaration: the one it names, or else the one shown. -/
def Declaration.encodingBehind (d : Declaration) (shown : Encoding) : Except MarkupError Encoding :=
  match d.encoding with
  | none => .ok shown
  | some label => declaredEncoding shown label

/-- Behind a declaration all is read in one encoding, which the declaration settles. -/
theorem ofBytes_of_declaration {d : Declaration}
    (hdetect : Encoding.detect (mark ++ bs) = (shown, bs))
    (hread : Declaration.read (lettersOf shown) (characters shown bs) = .ok (some d))
    (h : Manuscript.ofBytes (mark ++ bs) = .ok m) :
    ∃ head tail e, bs = head ++ tail ∧ m.chars = characters e tail ∧ ∀ more,
      Encoding.detect (mark ++ (head ++ more)) = (shown, head ++ more) →
        Manuscript.ofBytes (mark ++ (head ++ more)) =
          .ok { m with chars := characters e more } := by
  obtain ⟨inner, back, hcs, hlength, hascii, hagain⟩ := Declaration.read_append hread
  obtain ⟨head, tail, rfl, hhead, -⟩ := exists_spells hcs
  have hdrop : ∀ more, (head ++ more).drop (d.length * shown.width) = more := by
    intro more
    have hwidth := hhead.length_eq (ascii_append hascii (by decide))
    rw [List.length_append, List.length_singleton, hlength] at hwidth
    rw [← hwidth, List.drop_left]
  have hdropChars : ∀ cs : List Char, (inner ++ '>' :: cs).drop d.length = cs := by
    intro cs
    rw [← hlength, ← List.singleton_append, ← List.append_assoc]
    exact List.drop_left' (by rw [List.length_append, List.length_singleton])
  have hofBytes : ∀ more, Encoding.detect (mark ++ (head ++ more)) = (shown, head ++ more) →
      Manuscript.ofBytes (mark ++ (head ++ more)) =
        (d.encodingBehind shown).map fun e => ⟨lettersOf e, d.standalone, characters e more⟩ := by
    intro more hmore
    simp only [Manuscript.ofBytes, hmore, hhead.characters_append_close, hagain, hdrop, hdropChars,
      Declaration.encodingBehind]
    cases d.encoding with
    | none => rfl
    | some label =>
      dsimp only
      cases declaredEncoding shown label <;> rfl
  rw [hofBytes tail hdetect] at h
  obtain ⟨e, he, rfl⟩ := map_eq_ok_iff.mp h
  exact ⟨head, tail, e, rfl, rfl, fun more hmore => (hofBytes more hmore).trans (by rw [he]; rfl)⟩

/-- The bytes up to some end of a tag make the same of the manuscript up to there, and what is
behind them is read on in one encoding. -/
theorem ofBytes_append {bytes : Bytes} (h : Manuscript.ofBytes bytes = .ok m)
    (hchars : m.chars = inner ++ '>' :: back) (hinner : 2 ≤ inner.length) :
    ∃ head tail e, bytes = head ++ tail ∧ ∀ more, Manuscript.ofBytes (head ++ more) =
      .ok { m with chars := inner ++ '>' :: characters e more } := by
  obtain ⟨mark, hmark⟩ := Encoding.exists_mark bytes
  obtain ⟨shown, bs, hdetect⟩ : ∃ shown bs, Encoding.detect bytes = (shown, bs) := ⟨_, _, rfl⟩
  rw [hdetect] at hmark
  obtain rfl : bytes = mark ++ bs := hmark
  cases hread : Declaration.read (lettersOf shown) (characters shown bs) with
  | error e =>
    simp only [Manuscript.ofBytes, hdetect, hread] at h
    cases h
  | ok d =>
    cases d with
    | none =>
      simp only [Manuscript.ofBytes, hdetect, hread] at h
      cases h
      obtain ⟨head, tail, rfl, hmore⟩ := ofBytes_append_of_none hdetect hread hchars hinner
      refine ⟨mark ++ head, tail, shown, (List.append_assoc ..).symm, fun more => ?_⟩
      rw [List.append_assoc, hmore]
    | some d =>
      obtain ⟨head, tail, e, rfl, hbehind, hmore⟩ := ofBytes_of_declaration hdetect hread h
      rw [hbehind] at hchars
      obtain ⟨head', tail, rfl, hhead', -⟩ := exists_spells hchars
      refine ⟨mark ++ (head ++ head'), tail, e, by simp only [List.append_assoc], fun more => ?_⟩
      have hlength : 3 ≤ (head ++ head').length := by
        have hlt := hhead'.length_lt
        rw [List.length_append]
        omega
      rw [← List.append_assoc head] at hdetect
      have hsame := Encoding.detect_of_append hdetect hlength more
      rw [List.append_assoc head] at hsame
      rw [List.append_assoc, List.append_assoc, hmore _ hsame, hhead'.characters_append_close]

end Bytes

end Markup

end SafetyConfig
