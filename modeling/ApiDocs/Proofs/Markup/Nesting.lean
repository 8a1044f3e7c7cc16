import ApiDocs.Proofs.Markup.Marking

/-!
# Nesting of inline markup

Bold text is searched for in the text whose code spans are marked already, so a bold span can begin
inside one code span and end inside another.  The tags of inline markup are well nested just when
each bold span is well nested in itself, and code is left as it was written just when each bold
span begins and ends outside of code.
-/

namespace ApiDocs.Markup

/-! ## Nesting -/

/-- The elements that are open after a token, the latest first.  Only the latest can be closed. -/
def Token.nest : List Element → Token → Option (List Element)
  | stack, opens element => some (element :: stack)
  | latest :: stack, closes element => if latest = element then some stack else none
  | [], closes _ => none
  | stack, letter _ => some stack

/-- The elements that are open after some tokens, the latest first. -/
def openAfter (stack : List Element) (tokens : List Token) : Option (List Element) :=
  tokens.foldlM Token.nest stack

/-- Each tag that closes an element closes the one opened last, and none is left open. -/
def WellNested (tokens : List Token) : Prop := openAfter [] tokens = some []

instance (tokens : List Token) : Decidable (WellNested tokens) :=
  inferInstanceAs (Decidable (_ = _))

section Nesting

variable {stack after below : List Element} {tokens : List Token}

theorem openAfter_cons (token : Token) :
    openAfter stack (token :: tokens) =
      (token.nest stack).bind fun next => openAfter next tokens :=
  List.foldlM_cons

theorem openAfter_append (first second : List Token) :
    openAfter stack (first ++ second) =
      (openAfter stack first).bind fun next => openAfter next second :=
  List.foldlM_append

@[simp] theorem openAfter_letter (character : Char) :
    openAfter stack (.letter character :: tokens) = openAfter stack tokens := by
  cases stack <;> rfl

@[simp] theorem openAfter_opens (element : Element) :
    openAfter stack (.opens element :: tokens) = openAfter (element :: stack) tokens := by
  cases stack <;> rfl

@[simp] theorem openAfter_closes (element : Element) :
    openAfter (element :: stack) (.closes element :: tokens) = openAfter stack tokens := by
  rw [openAfter_cons, Token.nest, if_pos rfl, Option.bind_some]

@[simp] theorem openAfter_letters (text : List Char) :
    openAfter stack (text.map .letter ++ tokens) = openAfter stack tokens := by
  induction text with
  | nil => rfl
  | cons head tail inductionHypothesis =>
      rw [List.map_cons, List.cons_append, openAfter_letter, inductionHypothesis]

/-- What is open below does not matter to tokens that close no more than they open. -/
theorem openAfter_below (opened : openAfter stack tokens = some after) :
    openAfter (stack ++ below) tokens = some (after ++ below) := by
  induction tokens generalizing stack with
  | nil =>
      rw [Option.some.inj opened]
      rfl
  | cons token tokens inductionHypothesis =>
      cases token with
      | letter character =>
          rw [openAfter_letter] at opened ⊢
          exact inductionHypothesis opened
      | opens element =>
          rw [openAfter_opens] at opened ⊢
          exact inductionHypothesis opened
      | closes element =>
          cases stack with
          | nil => cases opened
          | cons latest others =>
              by_cases same : latest = element
              · subst same
                rw [openAfter_closes] at opened
                rw [List.cons_append, openAfter_closes]
                exact inductionHypothesis opened
              · rw [openAfter_cons, Token.nest, if_neg same] at opened
                cases opened

theorem openAfter_nested (nested : WellNested tokens) (rest : List Token) :
    openAfter stack (tokens ++ rest) = openAfter stack rest := by
  have kept : openAfter stack tokens = some stack := openAfter_below nested
  rw [openAfter_append, kept, Option.bind_some]

/-- Marking spans that are well nested leaves open what was open without the tags. -/
theorem openAfter_marked {element : Element} (search : Search element)
    (nested : ∀ body, .span body ∈ search.cuts tokens → WellNested body) :
    openAfter stack (search.marked tokens) = openAfter stack tokens := by
  induction tokens using Search.cuts.induct search generalizing stack with
  | case1 => rw [search.marked_nil]
  | case2 head tail body rest found inductionHypothesis =>
      rw [search.cuts_found found] at nested
      have bodyNested := nested body List.mem_cons_self
      obtain ⟨delimiter, _, split⟩ := search.delimited found
      rw [search.marked_found found, openAfter_opens, openAfter_nested bodyNested, openAfter_closes,
        inductionHypothesis fun other member => nested other (List.mem_cons_of_mem _ member),
        split, openAfter_letters, openAfter_nested bodyNested, openAfter_letters]
  | case3 head tail notFound inductionHypothesis =>
      rw [search.cuts_cons notFound] at nested
      rw [search.marked_cons notFound, openAfter_cons, openAfter_cons]
      congr 1
      funext next
      exact inductionHypothesis fun other member => nested other (List.mem_cons_of_mem _ member)

end Nesting

/-! ## Code and what is not code -/

/-- Whether code is open after a token. -/
def Token.inside : Bool → Token → Bool
  | _, opens .code => true
  | _, closes .code => false
  | inside, _ => inside

/-- Whether code is open after some tokens. -/
def insideAfter (inside : Bool) (tokens : List Token) : Bool := tokens.foldl Token.inside inside

/-- Code elements that follow each other, and no other tags; whether code is open at the beginning
is given. -/
def Alternates : Bool → List Token → Prop
  | _, [] => True
  | inside, .letter _ :: rest => Alternates inside rest
  | inside, .opens element :: rest => (inside = false ∧ element = .code) ∧ Alternates true rest
  | inside, .closes element :: rest => (inside = true ∧ element = .code) ∧ Alternates false rest

/-- The elements that are open inside or outside of code. -/
def codeStack (inside : Bool) : List Element := if inside then [.code] else []

section Alternating

variable {inside : Bool} {tokens : List Token}

theorem insideAfter_append (first second : List Token) :
    insideAfter inside (first ++ second) = insideAfter (insideAfter inside first) second :=
  List.foldl_append

@[simp] theorem insideAfter_letters (text : List Char) :
    insideAfter inside (text.map .letter) = inside := by
  induction text with
  | nil => rfl
  | cons head tail inductionHypothesis => exact inductionHypothesis

theorem alternates_append (first second : List Token) :
    Alternates inside (first ++ second) ↔
      Alternates inside first ∧ Alternates (insideAfter inside first) second := by
  induction first generalizing inside with
  | nil => exact ⟨fun rest => ⟨trivial, rest⟩, fun both => both.2⟩
  | cons token tokens inductionHypothesis =>
      cases token with
      | letter character => exact inductionHypothesis
      | opens element =>
          cases element with
          | code => exact (and_congr_right' inductionHypothesis).trans and_assoc.symm
          | bold => simp [Alternates]
      | closes element =>
          cases element with
          | code => exact (and_congr_right' inductionHypothesis).trans and_assoc.symm
          | bold => simp [Alternates]

theorem alternates_letters (text : List Char) : Alternates inside (text.map .letter) := by
  induction text with
  | nil => trivial
  | cons head tail inductionHypothesis => exact inductionHypothesis

/-- In alternating code at most one element is open. -/
theorem openAfter_alternates (alternates : Alternates inside tokens) :
    openAfter (codeStack inside) tokens = some (codeStack (insideAfter inside tokens)) := by
  induction tokens generalizing inside with
  | nil => rfl
  | cons token tokens inductionHypothesis =>
      cases token with
      | letter character =>
          rw [openAfter_letter]
          exact inductionHypothesis alternates
      | opens element =>
          obtain ⟨⟨rfl, rfl⟩, rest⟩ := alternates
          exact inductionHypothesis rest
      | closes element =>
          obtain ⟨⟨rfl, rfl⟩, rest⟩ := alternates
          exact inductionHypothesis rest

end Alternating

/-- A span in a text without tags holds no tags. -/
theorem letters_of_span?
    {element : Element} {search : Search element} {text : List Char} {body rest : List Token}
    (found : search.span? (text.map .letter) = some (body, rest)) :
    ∃ inner behind : List Char, body = inner.map .letter ∧ rest = behind.map .letter := by
  obtain ⟨delimiter, _, split⟩ := search.delimited found
  obtain ⟨_, further, _, _, further_eq⟩ := List.map_eq_append_iff.mp split
  obtain ⟨inner, further, _, inner_eq, further_eq⟩ := List.map_eq_append_iff.mp further_eq
  obtain ⟨_, behind, _, _, behind_eq⟩ := List.map_eq_append_iff.mp further_eq
  exact ⟨inner, behind, inner_eq.symm, behind_eq.symm⟩

/-- A text whose code spans are marked alternates, and no code is left open. -/
theorem coded_alternates (text : List Char) :
    Alternates false (coded text) ∧ insideAfter false (coded text) = false := by
  rw [coded]
  generalize isText : text.map Token.letter = tokens
  induction tokens using Search.cuts.induct codeSearch generalizing text with
  | case1 =>
      rw [codeSearch.marked_nil]
      exact ⟨trivial, rfl⟩
  | case2 head tail body rest found inductionHypothesis =>
      obtain ⟨inner, behind, rfl, rfl⟩ := letters_of_span? (isText ▸ found)
      obtain ⟨restAlternates, restEnds⟩ := inductionHypothesis behind rfl
      have inside : Alternates true (inner.map .letter ++ .closes .code ::
          codeSearch.marked (behind.map .letter)) := by
        rw [alternates_append, insideAfter_letters]
        exact ⟨alternates_letters inner, ⟨rfl, rfl⟩, restAlternates⟩
      have ends : insideAfter true (inner.map .letter ++ .closes .code ::
          codeSearch.marked (behind.map .letter)) = false := by
        rw [insideAfter_append, insideAfter_letters]
        exact restEnds
      rw [codeSearch.marked_found found]
      exact ⟨⟨⟨rfl, rfl⟩, inside⟩, ends⟩
  | case3 head tail notFound inductionHypothesis =>
      obtain ⟨character, others, _, rfl, others_eq⟩ := List.map_eq_cons_iff.mp isText
      rw [codeSearch.marked_cons notFound]
      exact inductionHypothesis others others_eq

theorem coded_wellNested (text : List Char) : WellNested (coded text) := by
  obtain ⟨alternates, ends⟩ := coded_alternates text
  have opened := openAfter_alternates alternates
  rw [ends] at opened
  exact opened

/-! ## Bold spans and code -/

/-- What a token adds to the code elements of a text. -/
def Token.codePart (inside : Bool) : Token → List Token
  | opens .code => [opens .code]
  | closes .code => [closes .code]
  | token => if inside then [token] else []

/-- The code elements of a text, with their tags and with all that stands in them; whether code is
open at the beginning is given. -/
def codeParts : Bool → List Token → List Token
  | _, [] => []
  | inside, token :: rest => token.codePart inside ++ codeParts (token.inside inside) rest

/-- The code spans of a text, each between the tags of code. -/
def codeElements (text : List Char) : List Token :=
  (codeSearch.cuts (text.map .letter)).flatMap fun
    | .token _ => []
    | .span body => .opens .code :: (body ++ [.closes .code])

/-- Each span begins and ends outside of code; whether code is open at the beginning is given. -/
def SpansOutside : Bool → List Cut → Prop
  | _, [] => True
  | inside, .token token :: rest => SpansOutside (token.inside inside) rest
  | inside, .span body :: rest =>
    (inside = false ∧ insideAfter false body = false) ∧ SpansOutside false rest

section Parts

variable {inside : Bool} {tokens : List Token}

theorem codeParts_append (first second : List Token) :
    codeParts inside (first ++ second) =
      codeParts inside first ++ codeParts (insideAfter inside first) second := by
  induction first generalizing inside with
  | nil => rfl
  | cons token tokens inductionHypothesis =>
      rw [List.cons_append, codeParts, inductionHypothesis, codeParts, List.append_assoc]
      rfl

theorem codeParts_letters (text : List Char) :
    codeParts inside (text.map .letter) = if inside then text.map .letter else [] := by
  induction text with
  | nil => cases inside <;> rfl
  | cons head tail inductionHypothesis =>
      have step : codeParts inside (.letter head :: tail.map .letter) =
          Token.codePart inside (.letter head) ++ codeParts inside (tail.map .letter) := rfl
      rw [List.map_cons, step, inductionHypothesis]
      cases inside <;> rfl

/-- Marking code leaves the code spans as they are written, and nothing else is code. -/
theorem codeParts_coded (text : List Char) : codeParts false (coded text) = codeElements text := by
  rw [coded, codeElements]
  generalize isText : text.map Token.letter = tokens
  induction tokens using Search.cuts.induct codeSearch generalizing text with
  | case1 => rw [codeSearch.marked_nil, codeSearch.cuts_nil]; rfl
  | case2 head tail body rest found inductionHypothesis =>
      obtain ⟨inner, behind, rfl, rfl⟩ := letters_of_span? (isText ▸ found)
      rw [codeSearch.marked_found found, codeSearch.cuts_found found, List.flatMap_cons,
        ← inductionHypothesis behind rfl, codeParts, Token.inside, codeParts_append,
        codeParts_letters, insideAfter_letters, codeParts, Token.inside]
      simp [Token.codePart]
  | case3 head tail notFound inductionHypothesis =>
      obtain ⟨character, others, _, rfl, others_eq⟩ := List.map_eq_cons_iff.mp isText
      rw [codeSearch.marked_cons notFound, codeSearch.cuts_cons notFound, List.flatMap_cons,
        ← inductionHypothesis others others_eq]
      rfl

/-- Marking bold text leaves code as it is just when no bold span begins or ends in code. -/
theorem codeParts_marked_iff :
    codeParts inside (boldSearch.marked tokens) = codeParts inside tokens ↔
      SpansOutside inside (boldSearch.cuts tokens) := by
  induction tokens using Search.cuts.induct boldSearch generalizing inside with
  | case1 =>
      rw [boldSearch.marked_nil, boldSearch.cuts_nil]
      exact ⟨fun _ => trivial, fun _ => rfl⟩
  | case2 head tail body rest found inductionHypothesis =>
      obtain ⟨delimiter, member, split⟩ := boldSearch.delimited found
      rw [List.mem_singleton.mp member] at split
      rw [boldSearch.marked_found found, boldSearch.cuts_found found, split, SpansOutside]
      cases inside with
      | true =>
          -- the opening tag stands in code, where the delimiter stood
          simp [codeParts, Token.codePart]
      | false =>
          have marked : codeParts false (.opens .bold ::
                (body ++ .closes .bold :: boldSearch.marked rest)) =
              codeParts false body ++ codeParts (insideAfter false body)
                (.closes .bold :: boldSearch.marked rest) :=
            codeParts_append body _
          have plain : codeParts false ([.letter '*', .letter '*'] ++
                (body ++ ([.letter '*', .letter '*'] ++ rest))) =
              codeParts false body ++ codeParts (insideAfter false body)
                (.letter '*' :: .letter '*' :: rest) :=
            codeParts_append body _
          rw [List.map_cons, List.map_cons, List.map_nil, marked, plain,
            List.append_cancel_left_eq]
          cases insideAfter false body with
          | true => simp [codeParts, Token.codePart]
          | false =>
              exact inductionHypothesis.trans
                ⟨fun outside => ⟨⟨rfl, rfl⟩, outside⟩, fun both => both.2⟩
  | case3 head tail notFound inductionHypothesis =>
      rw [boldSearch.marked_cons notFound, boldSearch.cuts_cons notFound, codeParts, codeParts,
        List.append_cancel_left_eq]
      exact inductionHypothesis

end Parts

/-! ## When the tags are well nested -/

/-- Where bold text is closed, the code that was opened in it has been closed. -/
theorem closed_of_closes_bold
    {inside : Bool} {tokens rest : List Token} (alternates : Alternates inside tokens)
    (depth : Nat) {below after : List Element}
    (opened : openAfter (List.replicate depth .code ++ .bold :: below)
      (tokens ++ .closes .bold :: rest) = some after) :
    openAfter (List.replicate depth .code) tokens = some [] ∧
      openAfter below rest = some after := by
  induction tokens generalizing inside depth with
  | nil =>
      cases depth with
      | zero =>
          rw [List.replicate_zero, List.nil_append, List.nil_append, openAfter_closes] at opened
          exact ⟨rfl, opened⟩
      | succ depth => cases opened
  | cons token tokens inductionHypothesis =>
      cases token with
      | letter character =>
          rw [List.cons_append, openAfter_letter] at opened
          rw [openAfter_letter]
          exact inductionHypothesis alternates depth opened
      | opens element =>
          obtain ⟨⟨_, rfl⟩, further⟩ := alternates
          rw [List.cons_append, openAfter_opens] at opened
          rw [openAfter_opens]
          exact inductionHypothesis further (depth + 1) opened
      | closes element =>
          obtain ⟨⟨_, rfl⟩, further⟩ := alternates
          cases depth with
          | zero => cases opened
          | succ depth =>
              rw [List.replicate_succ, List.cons_append, List.cons_append, openAfter_closes]
                at opened
              rw [List.replicate_succ, openAfter_closes]
              exact inductionHypothesis further depth opened

section Bold

variable {search : Search .bold} {inside : Bool} {tokens body : List Token}

/-- What alternating code is cut into alternates. -/
theorem alternates_of_span? {rest : List Token} (alternates : Alternates inside tokens)
    (found : search.span? tokens = some (body, rest)) :
    Alternates inside body ∧ Alternates (insideAfter inside body) rest := by
  obtain ⟨delimiter, _, split⟩ := search.delimited found
  rw [split, alternates_append, insideAfter_letters, alternates_append, alternates_append,
    insideAfter_letters] at alternates
  obtain ⟨_, bodyAlternates, _, restAlternates⟩ := alternates
  exact ⟨bodyAlternates, restAlternates⟩

theorem alternates_tail {head : Token} {tail : List Token}
    (alternates : Alternates inside (head :: tail)) : Alternates (head.inside inside) tail :=
  ((alternates_append [head] tail).mp alternates).2

/-- If marking leaves the tags in order, then each span is well nested. -/
theorem wellNested_of_openAfter_marked
    {stack after : List Element} (alternates : Alternates inside tokens)
    (opened : openAfter stack (search.marked tokens) = some after)
    (isSpan : .span body ∈ search.cuts tokens) :
    WellNested body := by
  induction tokens using Search.cuts.induct search generalizing inside stack with
  | case1 =>
      rw [search.cuts_nil] at isSpan
      cases isSpan
  | case2 head tail first rest found inductionHypothesis =>
      obtain ⟨firstAlternates, restAlternates⟩ := alternates_of_span? alternates found
      rw [search.marked_found found, openAfter_opens] at opened
      obtain ⟨nested, further⟩ := closed_of_closes_bold firstAlternates 0 opened
      rw [search.cuts_found found] at isSpan
      rcases List.mem_cons.mp isSpan with same | later
      · rw [Cut.span.inj same]
        exact nested
      · exact inductionHypothesis restAlternates further later
  | case3 head tail notFound inductionHypothesis =>
      rw [search.marked_cons notFound, openAfter_cons] at opened
      obtain ⟨next, _, further⟩ := Option.bind_eq_some_iff.mp opened
      rw [search.cuts_cons notFound] at isSpan
      rcases List.mem_cons.mp isSpan with same | later
      · cases same
      · exact inductionHypothesis (alternates_tail alternates) further later

/-- Bold spans that begin and end outside of code are well nested. -/
theorem wellNested_of_spansOutside
    (alternates : Alternates inside tokens) (outside : SpansOutside inside (search.cuts tokens))
    (isSpan : .span body ∈ search.cuts tokens) :
    WellNested body := by
  induction tokens using Search.cuts.induct search generalizing inside with
  | case1 =>
      rw [search.cuts_nil] at isSpan
      cases isSpan
  | case2 head tail first rest found inductionHypothesis =>
      obtain ⟨firstAlternates, restAlternates⟩ := alternates_of_span? alternates found
      rw [search.cuts_found found] at outside isSpan
      obtain ⟨⟨rfl, ended⟩, restOutside⟩ := outside
      rw [ended] at restAlternates
      rcases List.mem_cons.mp isSpan with same | later
      · have opened := openAfter_alternates firstAlternates
        rw [ended] at opened
        rw [Cut.span.inj same]
        exact opened
      · exact inductionHypothesis restAlternates restOutside later
  | case3 head tail notFound inductionHypothesis =>
      rw [search.cuts_cons notFound] at outside isSpan
      rcases List.mem_cons.mp isSpan with same | later
      · cases same
      · exact inductionHypothesis (alternates_tail alternates) outside later

end Bold

/-- When inline markup is as it should be.  It is read as tags and characters; its tags are well
nested just when each bold span, as it is cut from the text with its code spans marked, is well
nested; and its code elements are the code spans of the text just when each bold span begins and
ends outside of code, in which case the tags are well nested, too. -/
theorem renderInline_nests_iff (text : List Char) :
    tokens? (renderInline text) = some (inlined text) ∧
    (WellNested (inlined text) ↔
      ∀ body, .span body ∈ boldSearch.cuts (coded text) → WellNested body) ∧
    (codeParts false (inlined text) = codeElements text ↔
      SpansOutside false (boldSearch.cuts (coded text))) ∧
    (SpansOutside false (boldSearch.cuts (coded text)) → WellNested (inlined text)) := by
  have nested_of : (∀ body, .span body ∈ boldSearch.cuts (coded text) → WellNested body) →
      WellNested (inlined text) := by
    intro nested
    rw [WellNested, inlined, openAfter_marked boldSearch nested]
    exact coded_wellNested text
  refine ⟨tokens?_renderInline text, ⟨?nests, nested_of⟩, ?code, ?outside⟩
  case nests =>
    intro nested body isSpan
    exact wellNested_of_openAfter_marked (coded_alternates text).1 nested isSpan
  case code =>
    rw [inlined, ← codeParts_coded]
    exact codeParts_marked_iff
  case outside =>
    intro outside
    exact nested_of fun body isSpan =>
      wellNested_of_spansOutside (coded_alternates text).1 outside isSpan

/-- Inline markup is not well nested for every text, and code is not always left as it is written:
asterisks in two code spans are taken for those around bold text. -/
theorem not_renderInline_nests :
    renderInline "`**kwargs` and `**args`".toList =
      "<code><strong>kwargs</code> and <code></strong>args</code>".toList ∧
    ¬ WellNested (inlined "`**kwargs` and `**args`".toList) ∧
    codeParts false (inlined "`**kwargs` and `**args`".toList) ≠
      codeElements "`**kwargs` and `**args`".toList := by
  decide +kernel

end ApiDocs.Markup
