import Mathlib
import Blueprint.Proofs.Titles

/-!
# Texts of literals

What is written for a literal, made of quoted texts, booleans, integers and lists of
literals, can be read in one way only. A quoted text ends at the first quote that no
backslash escapes, a number where no digit follows, and a list at its own bracket, so two
literals that are written alike are the same one, whatever characters their texts are
made of.
-/

namespace Blueprint.Terraform

variable {a b : Expression} {c : Char} {cs rest rest' : List Char}

/-- Expressions made of texts, booleans, integers and lists of such expressions. -/
inductive Expression.IsLiteral : Expression → Prop
  | text (value : String) : IsLiteral (.text value)
  | bool (value : Bool) : IsLiteral (.bool value)
  | integer (value : Int) : IsLiteral (.number (.integer value))
  | list {items : List Expression} (h : ∀ item ∈ items, IsLiteral item) : IsLiteral (.list items)

/-! ## Quoted texts -/

theorem toList_quoted (s : String) :
    (quoted s).toList = '\x22' :: (s.toList.flatMap escapeChar ++ ['\x22']) := by
  simp [quoted]

theorem escapeChar_cases (c : Char) :
    (c = '\x22' ∨ c = '\x5c') ∧ escapeChar c = ['\x5c', c] ∨
      c = '\n' ∧ escapeChar c = ['\x5c', 'n'] ∨
      c ≠ '\x22' ∧ c ≠ '\x5c' ∧ c ≠ '\n' ∧ escapeChar c = [c] := by
  by_cases hquote : c = '\x22'
  · exact .inl ⟨.inl hquote, by simp [escapeChar, hquote]⟩
  by_cases hslash : c = '\x5c'
  · exact .inl ⟨.inr hslash, by simp [escapeChar, hslash]⟩
  by_cases hline : c = '\n'
  · exact .inr (.inl ⟨hline, by simp [escapeChar, hline]⟩)
  · exact .inr (.inr ⟨hquote, hslash, hline, by simp [escapeChar, hquote, hslash, hline]⟩)

/-- The places of the quotes that no backslash escapes. -/
def bareQuotes : List Char → List Nat
  | [] => []
  | [c] => if c = '\x22' then [0] else []
  | c :: d :: cs =>
      if c = '\x5c' then (bareQuotes cs).map (· + 2)
      else if c = '\x22' then 0 :: (bareQuotes (d :: cs)).map (· + 1)
      else (bareQuotes (d :: cs)).map (· + 1)

theorem bareQuotes_escapeChar (c : Char) (hne : cs ≠ []) :
    bareQuotes (escapeChar c ++ cs) = (bareQuotes cs).map (· + (escapeChar c).length) := by
  obtain ⟨d, cs, rfl⟩ := List.exists_cons_of_ne_nil hne
  rcases escapeChar_cases c with ⟨_, h⟩ | ⟨_, h⟩ | ⟨hquote, hslash, _, h⟩
  · simp [h, bareQuotes]
  · simp [h, bareQuotes]
  · simp [h, bareQuotes, hquote, hslash]

theorem bareQuotes_escaped (cs : List Char) :
    bareQuotes (cs.flatMap escapeChar ++ ['\x22']) = [(cs.flatMap escapeChar).length] := by
  induction cs with
  | nil => simp [bareQuotes]
  | cons c cs ih =>
      rw [List.flatMap_cons, List.append_assoc, bareQuotes_escapeChar c (by simp), ih]
      simp [Nat.add_comm]

/-! ## Reading quoted texts -/

/-- Where a reader stands: between quoted texts, inside of one, or behind a backslash. -/
inductive Reading
  | between
  | inside (read : List Char)
  | escaped (read : List Char)

namespace Reading

/-- The quoted texts that are read to their end. -/
def texts : Reading → List Char → List String
  | _, [] => []
  | between, c :: cs =>
      if c = '\x22' then texts (inside []) cs else texts between cs
  | inside read, c :: cs =>
      if c = '\x22' then String.ofList read :: texts between cs
      else if c = '\x5c' then texts (escaped read) cs
      else texts (inside (read ++ [c])) cs
  | escaped read, c :: cs => texts (inside (read ++ [if c = 'n' then '\n' else c])) cs

theorem texts_escapeChar (read : List Char) (c : Char) (rest : List Char) :
    texts (inside read) (escapeChar c ++ rest) = texts (inside (read ++ [c])) rest := by
  rcases escapeChar_cases c with ⟨rfl | rfl, h⟩ | ⟨rfl, h⟩ | ⟨hquote, hslash, _, h⟩
  · simp [h, texts]
  · simp [h, texts]
  · simp [h, texts]
  · simp [h, texts, hquote, hslash]

theorem texts_escaped (read cs rest : List Char) :
    texts (inside read) (cs.flatMap escapeChar ++ '\x22' :: rest) =
      String.ofList (read ++ cs) :: texts between rest := by
  induction cs generalizing read with
  | nil => simp [texts]
  | cons c cs ih =>
      rw [List.flatMap_cons, List.append_assoc, texts_escapeChar, ih, List.append_assoc,
        List.singleton_append]

theorem texts_quoted (s : String) (rest : List Char) :
    texts between ((quoted s).toList ++ rest) = s :: texts between rest := by
  rw [toList_quoted, List.cons_append, List.append_assoc, List.singleton_append, texts,
    if_pos rfl, texts_escaped, List.nil_append, String.ofList_toList]

theorem texts_of_not_mem (h : '\x22' ∉ cs) (rest : List Char) :
    texts between (cs ++ rest) = texts between rest := by
  induction cs with
  | nil => rfl
  | cons c cs ih =>
      obtain ⟨hc, hcs⟩ := not_or.mp (mt List.mem_cons.mpr h)
      rw [List.cons_append, texts, if_neg (Ne.symm hc), ih hcs]

end Reading

/-- A quoted text is told apart from what follows it. -/
theorem quoted_append_inj {s s' : String}
    (h : (quoted s).toList ++ rest = (quoted s').toList ++ rest') : s = s' ∧ rest = rest' := by
  have htexts := congrArg (Reading.texts .between) h
  rw [Reading.texts_quoted, Reading.texts_quoted] at htexts
  obtain rfl := (List.cons.inj htexts).1
  exact ⟨rfl, List.append_cancel_left h⟩

/-! ## Written integers -/

def isNumeral (c : Char) : Bool := c.isDigit || c = '-'

/-- Whether a number that ends here is not continued. -/
def Apart (rest : List Char) : Prop := ∀ c ∈ rest.head?, isNumeral c = false

theorem isNumeral_of_mem_toString {value : Int} (h : c ∈ (toString value).toList) :
    isNumeral c = true := by
  have hdigits : ∀ n : Nat, c ∈ n.repr.toList → isNumeral c = true := by
    intro n hn
    rw [Nat.repr, String.toList_ofList] at hn
    simp [isNumeral, Nat.isDigit_of_mem_toDigits (by decide) (by decide) hn]
  cases value with
  | ofNat n => exact hdigits n h
  | negSucc n =>
      have hsign : c ∈ ("-" ++ n.succ.repr).toList := h
      rw [String.toList_append, List.mem_append] at hsign
      rcases hsign with hc | hc
      · obtain rfl : c = '-' := by simpa using hc
        decide
      · exact hdigits n.succ hc

theorem toList_toString_ne_nil (value : Int) : (toString value).toList ≠ [] := by
  have hdigits : ∀ n : Nat, n.repr.toList ≠ [] := by
    intro n
    rw [Nat.repr, String.toList_ofList]
    exact Nat.toDigits_ne_nil
  cases value with
  | ofNat n => exact hdigits n
  | negSucc n =>
      change ("-" ++ n.succ.repr).toList ≠ []
      rw [String.toList_append]
      exact List.append_ne_nil_of_right_ne_nil _ (hdigits n.succ)

theorem integer_append_inj {m n : Int} (hrest : Apart rest) (hrest' : Apart rest')
    (h : (toString m).toList ++ rest = (toString n).toList ++ rest') : m = n ∧ rest = rest' := by
  have htaken : ∀ (value : Int) {rest : List Char}, Apart rest →
      ((toString value).toList ++ rest).takeWhile isNumeral = (toString value).toList := by
    intro value rest hrest
    have hnone : rest.takeWhile isNumeral = [] := by
      cases rest with
      | nil => rfl
      | cons c rest => exact List.takeWhile_cons_of_neg (by simpa using hrest c rfl)
    rw [List.takeWhile_append_of_pos fun c => isNumeral_of_mem_toString, hnone, List.append_nil]
  have hsame : (toString m).toList = (toString n).toList := by
    rw [← htaken m hrest, h, htaken n hrest']
  obtain rfl : m = n := Int.repr_injective (String.toList_inj.mp hsame)
  exact ⟨rfl, List.append_cancel_left h⟩

/-! ## Lists -/

/-- What is written behind an item of a list, given the items that follow. -/
def closing : List Expression → List Char
  | [] => [']']
  | item :: rest => ',' :: ' ' :: (item.render.toList ++ closing rest)

theorem toList_render_cons (item : Expression) (items : List Expression) :
    (Expression.list (item :: items)).render.toList =
      '[' :: (item.render.toList ++ closing items) := by
  have hjoin : ∀ (item : Expression) (items : List Expression),
      (Text.join ", " (Expression.renderAll (item :: items))).toList ++ [']'] =
        item.render.toList ++ closing items := by
    intro item items
    induction items generalizing item with
    | nil => simp [Expression.renderAll, Text.join, closing]
    | cons next items ih =>
        rw [closing, ← ih next]
        simp [Expression.renderAll, Text.join_cons_cons]
  rw [← hjoin]
  simp [Expression.render]

theorem toList_render_nil : (Expression.list []).render.toList = ['[', ']'] := by decide

theorem apart_closing (items : List Expression) (rest : List Char) :
    Apart (closing items ++ rest) := by
  cases items <;> simp [Apart, closing] <;> decide

/-! ## What literals begin with -/

namespace Expression.IsLiteral

theorem of_cons (hb : b.IsLiteral) (h : b.render.toList ++ rest = c :: cs) :
    c = '\x22' ∧ (∃ s, b = .text s) ∨ c = 't' ∧ b = .bool true ∨ c = 'f' ∧ b = .bool false ∨
      isNumeral c = true ∧ (∃ n, b = .number (.integer n)) ∨
      c = '[' ∧ ∃ items, b = .list items ∧ ∀ item ∈ items, item.IsLiteral := by
  cases hb with
  | text s =>
      obtain ⟨rfl, _⟩ : '\x22' = c ∧ _ := by simpa [render, toList_quoted] using h
      exact .inl ⟨rfl, s, rfl⟩
  | bool value =>
      cases value
      · obtain ⟨rfl, _⟩ : 'f' = c ∧ _ := by simpa [render] using h
        exact .inr (.inr (.inl ⟨rfl, rfl⟩))
      · obtain ⟨rfl, _⟩ : 't' = c ∧ _ := by simpa [render] using h
        exact .inr (.inl ⟨rfl, rfl⟩)
  | integer n =>
      obtain ⟨d, ds, hd⟩ := List.exists_cons_of_ne_nil (toList_toString_ne_nil n)
      have hmem : d ∈ (toString n).toList := hd ▸ List.mem_cons_self
      rw [render, Number.written, hd] at h
      obtain rfl := (List.cons.inj h).1
      exact .inr (.inr (.inr (.inl ⟨isNumeral_of_mem_toString hmem, n, rfl⟩)))
  | list hitems =>
      obtain ⟨rfl, _⟩ : '[' = c ∧ _ := by simpa [render] using h
      exact .inr (.inr (.inr (.inr ⟨rfl, _, rfl, hitems⟩)))

theorem of_quote (hb : b.IsLiteral) (h : b.render.toList ++ rest = '\x22' :: cs) :
    ∃ s, b = .text s := by
  simpa [isNumeral] using hb.of_cons h

theorem of_numeral (hb : b.IsLiteral) (h : b.render.toList ++ rest = c :: cs)
    (hc : isNumeral c = true) : ∃ n, b = .number (.integer n) := by
  rcases hb.of_cons h with ⟨rfl, _⟩ | ⟨rfl, _⟩ | ⟨rfl, _⟩ | ⟨_, hn⟩ | ⟨rfl, _⟩
  · cases hc
  · cases hc
  · cases hc
  · exact hn
  · cases hc

theorem of_bracket (hb : b.IsLiteral) (h : b.render.toList ++ rest = '[' :: cs) :
    ∃ items, b = .list items ∧ ∀ item ∈ items, item.IsLiteral := by
  simpa [isNumeral] using hb.of_cons h

theorem ne_of_bracket (hb : b.IsLiteral) : b.render.toList ++ rest ≠ ']' :: cs := by
  intro h
  simpa [isNumeral] using hb.of_cons h

end Expression.IsLiteral

/-! ## Literals and what follows them -/

/-- Whether an expression is told from any literal by its text, whatever follows the two. -/
def Expression.SelfDelimiting (a : Expression) : Prop :=
  ∀ {b : Expression} {rest rest' : List Char}, b.IsLiteral → Apart rest → Apart rest' →
    a.render.toList ++ rest = b.render.toList ++ rest' → a = b ∧ rest = rest'

variable {items items' : List Expression}

theorem closing_append_inj (hitems : ∀ a ∈ items, a.SelfDelimiting)
    (hitems' : ∀ b ∈ items', b.IsLiteral)
    (h : closing items ++ rest = closing items' ++ rest') : items = items' ∧ rest = rest' := by
  induction items generalizing items' with
  | nil =>
      cases items' with
      | nil => exact ⟨rfl, (List.cons.inj h).2⟩
      | cons b items' => simp [closing] at h
  | cons a items ih =>
      cases items' with
      | nil => simp [closing] at h
      | cons b items' =>
          simp only [closing, List.cons_append, List.append_assoc, List.cons.injEq,
            true_and] at h
          obtain ⟨rfl, hclosing⟩ := hitems a List.mem_cons_self (hitems' b List.mem_cons_self)
            (apart_closing _ _) (apart_closing _ _) h
          obtain ⟨rfl, hrest⟩ := ih (fun a ha => hitems a (List.mem_cons_of_mem _ ha))
            (fun b hb => hitems' b (List.mem_cons_of_mem _ hb)) hclosing
          exact ⟨rfl, hrest⟩

theorem list_append_inj (hitems : ∀ a ∈ items, a.IsLiteral ∧ a.SelfDelimiting)
    (hitems' : ∀ b ∈ items', b.IsLiteral)
    (h : (Expression.list items).render.toList ++ rest =
      (Expression.list items').render.toList ++ rest') : items = items' ∧ rest = rest' := by
  cases items with
  | nil =>
      cases items' with
      | nil => exact ⟨rfl, List.append_cancel_left h⟩
      | cons b items' =>
          rw [toList_render_nil, toList_render_cons] at h
          simp only [List.cons_append, List.append_assoc, List.nil_append, List.cons.injEq,
            true_and] at h
          exact absurd h.symm (hitems' b List.mem_cons_self).ne_of_bracket
  | cons a items =>
      cases items' with
      | nil =>
          rw [toList_render_nil, toList_render_cons] at h
          simp only [List.cons_append, List.append_assoc, List.nil_append, List.cons.injEq,
            true_and] at h
          exact absurd h (hitems a List.mem_cons_self).1.ne_of_bracket
      | cons b items' =>
          -- First items that are the same leave the other items behind them.
          rw [toList_render_cons, toList_render_cons] at h
          simp only [List.cons_append, List.append_assoc, List.cons.injEq, true_and] at h
          obtain ⟨rfl, hclosing⟩ := (hitems a List.mem_cons_self).2
            (hitems' b List.mem_cons_self) (apart_closing _ _) (apart_closing _ _) h
          obtain ⟨rfl, hrest⟩ := closing_append_inj
            (fun a ha => (hitems a (List.mem_cons_of_mem _ ha)).2)
            (fun b hb => hitems' b (List.mem_cons_of_mem _ hb)) hclosing
          exact ⟨rfl, hrest⟩

theorem Expression.IsLiteral.selfDelimiting (ha : a.IsLiteral) : a.SelfDelimiting := by
  induction ha with
  | text s =>
      intro b rest rest' hb _ _ h
      obtain ⟨t, rfl⟩ := hb.of_quote (h.symm.trans (by rw [render, toList_quoted]; rfl))
      obtain ⟨rfl, hrest⟩ := quoted_append_inj h
      exact ⟨rfl, hrest⟩
  | bool value =>
      intro b rest rest' hb _ _ h
      obtain rfl : b = .bool value := by
        cases value with
        | true =>
            have hbegins : b.render.toList ++ rest' = 't' :: 'r' :: 'u' :: 'e' :: rest := by
              simpa [render] using h.symm
            simpa [isNumeral] using hb.of_cons hbegins
        | false =>
            have hbegins : b.render.toList ++ rest' = 'f' :: 'a' :: 'l' :: 's' :: 'e' :: rest := by
              simpa [render] using h.symm
            simpa [isNumeral] using hb.of_cons hbegins
      exact ⟨rfl, List.append_cancel_left h⟩
  | integer m =>
      intro b rest rest' hb hrest hrest' h
      obtain ⟨d, ds, hd⟩ := List.exists_cons_of_ne_nil (toList_toString_ne_nil m)
      have hnumeral : isNumeral d = true :=
        isNumeral_of_mem_toString (hd ▸ List.mem_cons_self : d ∈ (toString m).toList)
      obtain ⟨n, rfl⟩ := hb.of_numeral
        (h.symm.trans (by rw [render, Number.written, hd]; rfl)) hnumeral
      obtain ⟨rfl, hrest⟩ := integer_append_inj hrest hrest' h
      exact ⟨rfl, hrest⟩
  | @list items hitems ih =>
      intro b rest rest' hb _ _ h
      have hopens : ∃ cs, (Expression.list items).render.toList = '[' :: cs := by simp [render]
      obtain ⟨cs, hcs⟩ := hopens
      obtain ⟨items', rfl, hitems'⟩ := hb.of_bracket (h.symm.trans (by rw [hcs]; rfl))
      obtain ⟨rfl, hrest⟩ := list_append_inj (fun a ha => ⟨hitems a ha, ih a ha⟩) hitems' h
      exact ⟨rfl, hrest⟩

/-! ## What is written for literals -/

namespace Expression

mutual

/-- The texts that a literal is made of. -/
def heldTexts : Expression → List String
  | text value => [value]
  | list items => heldTextsAll items
  | _ => []

def heldTextsAll : List Expression → List String
  | [] => []
  | item :: rest => item.heldTexts ++ heldTextsAll rest

end

theorem heldTextsAll_eq (items : List Expression) :
    heldTextsAll items = items.flatMap heldTexts := by
  induction items with
  | nil => rfl
  | cons item rest ih => rw [heldTextsAll, ih, List.flatMap_cons]

theorem mem_renderAll {items : List Expression} {text : String} (h : text ∈ renderAll items) :
    ∃ item ∈ items, text = item.render := by
  induction items with
  | nil => cases h
  | cons item rest ih =>
      rcases List.mem_cons.mp h with rfl | h
      · exact ⟨item, List.mem_cons_self, rfl⟩
      · obtain ⟨other, hother, htext⟩ := ih h
        exact ⟨other, List.mem_cons_of_mem _ hother, htext⟩

end Expression

theorem newline_not_mem_quoted (s : String) : '\n' ∉ (quoted s).toList := by
  have hescaped : ∀ c, '\n' ∉ escapeChar c := by
    intro c
    rcases escapeChar_cases c with ⟨rfl | rfl, h⟩ | ⟨_, h⟩ | ⟨_, _, hline, h⟩
    · simp [h]
    · simp [h]
    · simp [h]
    · simp [h, Ne.symm hline]
  simpa [toList_quoted] using fun c _ => hescaped c

theorem Expression.IsLiteral.newline_not_mem (ha : a.IsLiteral) : '\n' ∉ a.render.toList := by
  induction ha with
  | text s => exact newline_not_mem_quoted s
  | bool value => cases value <;> decide
  | integer n =>
      intro h
      have hnumeral := isNumeral_of_mem_toString (h : '\n' ∈ (toString n).toList)
      cases hnumeral
  | @list items _ ih =>
      have hjoin : '\n' ∉ (Text.join ", " (renderAll items)).toList := by
        rw [Text.mem_join_iff (by decide)]
        rintro ⟨text, htext, hmem⟩
        obtain ⟨item, hitem, rfl⟩ := mem_renderAll htext
        exact ih item hitem hmem
      simpa [render] using hjoin

theorem texts_closing
    (h : ∀ item ∈ items, ∀ rest, Reading.texts .between (item.render.toList ++ rest) =
      item.heldTexts ++ Reading.texts .between rest) (rest : List Char) :
    Reading.texts .between (closing items ++ rest) =
      items.flatMap Expression.heldTexts ++ Reading.texts .between rest := by
  induction items with
  | nil => rfl
  | cons item items ih =>
      have hseparator : closing (item :: items) ++ rest =
          [',', ' '] ++ (item.render.toList ++ (closing items ++ rest)) := by
        simp [closing]
      rw [hseparator, Reading.texts_of_not_mem (by decide), h item List.mem_cons_self,
        ih fun other hother => h other (List.mem_cons_of_mem _ hother), List.flatMap_cons,
        List.append_assoc]

theorem Expression.IsLiteral.texts_render (ha : a.IsLiteral) (rest : List Char) :
    Reading.texts .between (a.render.toList ++ rest) =
      a.heldTexts ++ Reading.texts .between rest := by
  induction ha generalizing rest with
  | text s => exact Reading.texts_quoted s rest
  | bool value => cases value <;> exact Reading.texts_of_not_mem (by decide) rest
  | integer n =>
      refine Reading.texts_of_not_mem (fun h => ?_) rest
      have hnumeral := isNumeral_of_mem_toString (h : '\x22' ∈ (toString n).toList)
      cases hnumeral
  | @list items _ ih =>
      rw [heldTexts, heldTextsAll_eq]
      cases items with
      | nil =>
          rw [toList_render_nil]
          exact Reading.texts_of_not_mem (by decide) rest
      | cons item items =>
          have hopening : (Expression.list (item :: items)).render.toList ++ rest =
              ['['] ++ (item.render.toList ++ (closing items ++ rest)) := by
            simp [toList_render_cons]
          rw [hopening, Reading.texts_of_not_mem (by decide), ih item List.mem_cons_self,
            texts_closing fun other hother => ih other (List.mem_cons_of_mem _ hother),
            List.flatMap_cons, List.append_assoc]

/-- Literals that are written alike are the same. What is written for one stays on one line,
and the quoted texts that a reader finds there are the texts it is made of, since the only
quote within a quoted text that no backslash escapes is the one that ends it. -/
theorem literals_unambiguous (ha : a.IsLiteral) (hb : b.IsLiteral) :
    (a.render = b.render ↔ a = b) ∧ '\n' ∉ a.render.toList ∧
      Reading.texts .between a.render.toList = a.heldTexts ∧
      ∀ s, ∃ inner, (quoted s).toList = '\x22' :: (inner ++ ['\x22']) ∧
        bareQuotes (inner ++ ['\x22']) = [inner.length] := by
  refine ⟨⟨fun h => ?_, fun h => h ▸ rfl⟩, ha.newline_not_mem, ?_, fun s => ?_⟩
  · have hnothing : Apart [] := by simp [Apart]
    exact (ha.selfDelimiting hb hnothing hnothing (by rw [h])).1
  · simpa [Reading.texts] using ha.texts_render []
  · exact ⟨_, toList_quoted s, bareQuotes_escaped _⟩

/-- A text that looks like two, with a backslash at its end. -/
def sampleJoined : Expression :=
  .list [.text "a\x22, \x22b\x5c", .list [], .number (.integer 12)]

def sampleParted : Expression :=
  .list [.text "a", .text "b\x5c", .list [], .number (.integer 12)]

theorem literals_unambiguous_parted :
    sampleJoined.IsLiteral ∧ sampleParted.IsLiteral ∧
      (sampleJoined.render = sampleParted.render ↔ sampleJoined = sampleParted) ∧
      '\n' ∉ sampleJoined.render.toList ∧
      Reading.texts .between sampleJoined.render.toList = sampleJoined.heldTexts ∧
      ∀ s, ∃ inner, (quoted s).toList = '\x22' :: (inner ++ ['\x22']) ∧
        bareQuotes (inner ++ ['\x22']) = [inner.length] := by
  have hnone : (Expression.list []).IsLiteral := .list (by simp)
  have hjoined : sampleJoined.IsLiteral := by
    refine .list fun item hitem => ?_
    simp only [List.mem_cons, List.not_mem_nil, or_false] at hitem
    rcases hitem with rfl | rfl | rfl
    · exact .text _
    · exact hnone
    · exact .integer 12
  have hparted : sampleParted.IsLiteral := by
    refine .list fun item hitem => ?_
    simp only [List.mem_cons, List.not_mem_nil, or_false] at hitem
    rcases hitem with rfl | rfl | rfl | rfl
    · exact .text _
    · exact .text _
    · exact hnone
    · exact .integer 12
  exact ⟨hjoined, hparted, literals_unambiguous hjoined hparted⟩

end Blueprint.Terraform
