import ApiDocs.Plugins.Analytics
import ApiDocs.Proofs.Browser.Scripts
import ApiDocs.Proofs.Browser.Tokens
import ApiDocs.Proofs.Text.Escaping

/-!
# The script that counts visits

The account stands in the snippet as part of an address and as a text of the script, and the site as
another text of it.  All three are read back as they were given.  The page around them is read as
it is meant where no value holds the end of a script or the beginning of a comment: neither is
escaped in a literal.
-/

namespace ApiDocs.Analytics

open ApiDocs.Browser
open ApiDocs.Text

/-! ## Parts of the snippet -/

def address : String := "https://www.googletagmanager.com/gtag/js?id="

/-- The account as it stands in the address. -/
def query (account : String) : List Char := escapeAttribute (percentEncode account.toList)

/-- What the script does before it is configured. -/
def setup : List Char :=
  ("\nwindow.dataLayer = window.dataLayer || [];\n" ++
    "function gtag() \x7b dataLayer.push(arguments); \x7d\n" ++
    "gtag(\"js\", new Date());\n").toList

/-- The call that configures the script. -/
def call (account site : String) : List Char :=
  "gtag(\"config\", ".toList ++ scriptLiteral account.toList ++ ", ".toList ++
    (configuration site).toList ++ ");".toList

/-- The text of the second script. -/
def content (account site : String) : List Char := setup ++ call account site ++ ['\n']

theorem toList_snippet {account : String} (isGiven : account ≠ "") (site : String) :
    (snippet account site).toList =
      "<script async src=".toList ++ '"' :: (address.toList ++ query account ++ '"' ::
        ("></script>\n<script>".toList ++ content account site ++ closing ++ ['>'])) := by
  -- the fixed lines between the address and the call
  have lines (rest : List Char) :
      "\"></script>".toList ++ ("\n".toList ++ ("<script>".toList ++ ("\n".toList ++
        ("window.dataLayer = window.dataLayer || [];".toList ++ ("\n".toList ++
          ("function gtag() \x7b dataLayer.push(arguments); \x7d".toList ++ ("\n".toList ++
            ("gtag(\"js\", new Date());".toList ++ ("\n".toList ++ rest))))))))) =
        '"' :: ("></script>\n<script>".toList ++ (setup ++ rest)) := by
    have fixed : "\"></script>".toList ++ ("\n".toList ++ ("<script>".toList ++ ("\n".toList ++
        ("window.dataLayer = window.dataLayer || [];".toList ++ ("\n".toList ++
          ("function gtag() \x7b dataLayer.push(arguments); \x7d".toList ++ ("\n".toList ++
            ("gtag(\"js\", new Date());".toList ++ "\n".toList)))))))) =
        '"' :: ("></script>\n<script>".toList ++ setup) := by
      decide +kernel
    simpa only [List.append_assoc, List.cons_append] using congrArg (· ++ rest) fixed
  have opens : "<script async src=\"https://www.googletagmanager.com/gtag/js?id=".toList =
      "<script async src=".toList ++ '"' :: address.toList := by
    decide +kernel
  have closes : "\n".toList ++ "</script>".toList = ['\n'] ++ (closing ++ ['>']) := by
    decide +kernel
  rw [snippet, if_neg isGiven, content, query]
  unfold call
  simp only [String.toList_intercalate, List.map_cons, List.map_nil, String.toList_append,
    String.toList_ofList, List.intercalate_cons_cons, List.intercalate_singleton,
    List.append_assoc, lines, opens, closes, List.cons_append]

/-! ## Marks -/

/-- The site as far as the script holds it. -/
def heldSite (site : String) : List Char :=
  if site = automaticSite then [] else site.toList

section Marks

variable {mark : List Char} (isMark : ∀ letter ∈ mark, letter ∈ "!-/script".toList)
include isMark

theorem isVerbatim_of_isMark : ∀ letter ∈ mark, IsVerbatim letter := by
  have verbatim : ∀ letter ∈ "!-/script".toList, IsVerbatim letter :=
    forall_of_all (by decide +kernel)
  exact fun letter member => verbatim letter (isMark letter member)

theorem occurrences_configuration (site : String) :
    occurrences ('<' :: mark) (configuration site).toList =
      occurrences ('<' :: mark) (heldSite site) := by
  rw [configuration, heldSite]
  by_cases isOpen : site = automaticSite
  · rw [if_pos isOpen, if_pos isOpen]
    exact occurrences_eq_zero (forall_of_all (by decide))
  · have closes : occurrences ('<' :: mark) "\x7d".toList = 0 :=
      occurrences_eq_zero (forall_of_all (by decide))
    have noBrace : Char.toLower '\x7d' ∉ mark := fun member =>
      absurd (isMark _ member) (by decide)
    rw [if_neg isOpen, if_neg isOpen, String.toList_append, String.toList_append,
      @String.toList_ofList (scriptLiteral site.toList), List.append_assoc,
      occurrences_append_of_forall_ne (forall_of_all (by decide))]
    refine (occurrences_append noBrace).trans ?_
    rw [occurrences_scriptLiteral (isVerbatim_of_isMark isMark)]
    exact congrArg _ closes

/-- The script holds a mark as often as the values do. -/
theorem occurrences_content (account site : String) :
    occurrences ('<' :: mark) (content account site) =
      occurrences ('<' :: mark) account.toList + occurrences ('<' :: mark) (heldSite site) := by
  have pieces : content account site =
      (setup ++ "gtag(\"config\", ".toList) ++ (scriptLiteral account.toList ++
        ',' :: ([' '] ++ ((configuration site).toList ++ ')' :: ";\n".toList))) := by
    have comma : ", ".toList = [','] ++ [' '] := by decide
    have bracket : ");".toList ++ ['\n'] = ')' :: ";\n".toList := by decide
    rw [content]
    unfold call
    simp only [List.append_assoc, comma, bracket, List.cons_append, List.nil_append]
  have noLess : ∀ character ∈ setup ++ "gtag(\"config\", ".toList, '<' ≠ character.toLower :=
    forall_of_all (by decide +kernel)
  have noComma : Char.toLower ',' ∉ mark := fun member => absurd (isMark _ member) (by decide)
  have noBracket : Char.toLower ')' ∉ mark := fun member => absurd (isMark _ member) (by decide)
  have closes : occurrences ('<' :: mark) (')' :: ";\n".toList) = 0 :=
    occurrences_eq_zero (forall_of_all (by decide))
  have between (rest : List Char) :
      occurrences ('<' :: mark) (',' :: ([' '] ++ rest)) = occurrences ('<' :: mark) rest :=
    @occurrences_append_of_forall_ne '<' mark [',', ' '] rest (forall_of_all (by decide))
  rw [pieces, occurrences_append_of_forall_ne noLess, occurrences_append noComma, between,
    occurrences_append noBracket, closes, Nat.add_zero,
    occurrences_scriptLiteral (isVerbatim_of_isMark isMark), occurrences_configuration isMark]

end Marks

theorem isQuotable_of_mem_query {account : String} :
    ∀ character ∈ query account, IsQuotable character :=
  isQuotable_of_mem_escapeAttribute

/-- Besides the two ends of scripts that belong to the snippet there are those of the values. -/
theorem occurrences_closing_snippet {account : String} (isGiven : account ≠ "") (site : String) :
    occurrences closing (snippet account site).toList =
      2 + occurrences closing account.toList + occurrences closing (heldSite site) := by
  have spelled : closing = '<' :: "/script".toList := by decide
  have pieces : (snippet account site).toList =
      "<script async src=".toList ++ '"' :: ((address.toList ++ query account) ++
        (('"' :: "></script>\n<script".toList) ++ '>' :: (content account site ++
          '<' :: "/script>".toList))) := by
    have first : "></script>\n<script>".toList = "></script>\n<script".toList ++ ['>'] := by
      decide +kernel
    have last : closing ++ ['>'] = '<' :: "/script>".toList := by decide +kernel
    rw [toList_snippet isGiven, first]
    simp only [List.append_assoc, last, List.cons_append, List.nil_append]
  have noQuote : Char.toLower '"' ∉ "/script".toList := by decide
  have noGreater : Char.toLower '>' ∉ "/script".toList := by decide
  have noLess : Char.toLower '<' ∉ "/script".toList := by decide
  have inAddress : ∀ character ∈ '"' :: (address.toList ++ query account),
      '<' ≠ character.toLower := by
    intro character member
    refine less_ne_toLower ?_
    rcases List.mem_cons.mp member with rfl | inside
    · decide
    · rcases List.mem_append.mp inside with inAddress | inQuery
      · exact fun isLess => absurd (isLess ▸ inAddress) (by decide +kernel)
      · exact fun isLess => (isQuotable_of_mem_query _ inQuery).noAngle (.inl isLess)
  have isMark : ∀ letter ∈ "/script".toList, letter ∈ "!-/script".toList :=
    forall_of_all (by decide)
  have opens : occurrences ('<' :: "/script".toList) "<script async src=".toList = 0 := by
    decide +kernel
  have between :
      occurrences ('<' :: "/script".toList) ('"' :: "></script>\n<script".toList) = 1 := by
    decide +kernel
  have closes : occurrences ('<' :: "/script".toList) ('<' :: "/script>".toList) = 1 := by
    decide +kernel
  have afterTag (rest : List Char) : occurrences ('<' :: "/script".toList) ('>' :: rest) =
      occurrences ('<' :: "/script".toList) rest :=
    @occurrences_append_of_forall_ne '<' "/script".toList ['>'] rest (forall_of_all (by decide))
  rw [pieces, spelled, occurrences_append noQuote, opens, ← List.cons_append,
    occurrences_append_of_forall_ne inAddress, occurrences_append noGreater, between, afterTag,
    occurrences_append noLess, closes, occurrences_content isMark]
  omega

/-! ## Tokens -/

/-- The tokens of what the script does before it is configured. -/
def setupTokens : List Token := (tokens? setup).getD []

def configurationTokens (site : String) : List Token :=
  if site = automaticSite then [.mark '\x7b', .mark '\x7d']
  else [.mark '\x7b', .text "cookie_domain", .mark ':', .text site, .mark '\x7d']

theorem run_configuration (site : String) :
    Lexing.between.run (configuration site).toList = (.between, configurationTokens site) := by
  rw [configuration, configurationTokens]
  by_cases isOpen : site = automaticSite
  · rw [if_pos isOpen, if_pos isOpen]
    decide
  · have opens : Lexing.between.run "\x7b\"cookie_domain\": ".toList =
        (.between, [.mark '\x7b', .text "cookie_domain", .mark ':']) := by
      decide +kernel
    have literal := Lexing.run_scriptLiteral site.toList
    have closes : Lexing.between.run "\x7d".toList = (.between, [.mark '\x7d']) := by decide
    rw [String.ofList_toList] at literal
    rw [if_neg isOpen, if_neg isOpen, String.toList_append, String.toList_append,
      @String.toList_ofList (scriptLiteral site.toList)]
    exact Lexing.run_append_of_eq (Lexing.run_append_of_eq opens literal) closes

theorem tokens?_content (account site : String) :
    tokens? (content account site) =
      some (setupTokens ++
        ([.word "gtag", .mark '(', .text "config", .mark ',', .text account, .mark ','] ++
          configurationTokens site ++ [.mark ')', .mark ';'])) := by
  have before : Lexing.between.run setup = (.between, setupTokens) := by decide +kernel
  have opens : Lexing.between.run "gtag(\"config\", ".toList =
      (.between, [.word "gtag", .mark '(', .text "config", .mark ',']) := by
    decide +kernel
  have literal := Lexing.run_scriptLiteral account.toList
  rw [String.ofList_toList] at literal
  have comma : Lexing.between.run ", ".toList = (.between, [.mark ',']) := by decide
  have closes : Lexing.between.run ");".toList = (.between, [.mark ')', .mark ';']) := by decide
  have ends : Lexing.between.run ['\n'] = (.between, []) := by decide
  have calls := Lexing.run_append_of_eq (Lexing.run_append_of_eq (Lexing.run_append_of_eq
    (Lexing.run_append_of_eq opens literal) comma) (run_configuration site)) closes
  have whole := Lexing.run_append_of_eq (Lexing.run_append_of_eq before calls) ends
  have spelled : content account site = setup ++ ("gtag(\"config\", ".toList ++
      scriptLiteral account.toList ++ ", ".toList ++ (configuration site).toList ++ ");".toList) ++
      ['\n'] := by
    rw [content]
    unfold call
    rfl
  rw [tokens?, spelled, whole, List.append_nil]
  rfl

/-! ## The page -/

/-- The opening tag of the first script, without its brackets. -/
def firstTag (account : String) : List Char :=
  "script async src=".toList ++ ['"'] ++ (address.toList ++ query account) ++ ['"']

theorem run_firstTag (account : String) (rest : List Char) :
    Parsing.outside.run ("<script async src=".toList ++
        '"' :: (address.toList ++ query account ++ '"' :: '>' :: rest)) =
      (Parsing.script (firstTag account) .plain []).run rest := by
  have spelled : "<script async src=".toList = '<' :: "script async src=".toList := by
    decide +kernel
  have areLetters : ∀ letter ∈ "script async src=".toList, Parsing.IsLetter letter :=
    forall_of_all (by decide +kernel)
  have isValue : "script async src=".toList.getLast? = some '=' := by decide +kernel
  have isScript (value : List Char) :
      Parsing.opened ("script async src=".toList ++ ['"'] ++ value ++ ['"']) =
        .script ("script async src=".toList ++ ['"'] ++ value ++ ['"']) .plain [] :=
    rfl
  have noQuote : '"' ∉ address.toList ++ query account := by
    intro member
    rcases List.mem_append.mp member with inAddress | inQuery
    · exact absurd inAddress (by decide +kernel)
    · exact (isQuotable_of_mem_query _ inQuery).noQuote rfl
  rw [spelled, List.cons_append, Parsing.run_tag (by decide) areLetters, Parsing.run_quote isValue,
    Parsing.run_value noQuote, Parsing.run_greater (isScript _)]
  rfl

theorem run_secondTag (rest : List Char) :
    Parsing.outside.run ("\n<script>".toList ++ rest) =
      (Parsing.script "script".toList .plain []).run rest := by
  have spelled : "\n<script>".toList ++ rest =
      ['\n'] ++ '<' :: ("script".toList ++ '>' :: rest) := by
    have closed : "\n<script>".toList = ['\n'] ++ '<' :: ("script".toList ++ ['>']) := by decide
    rw [closed]
    simp only [List.append_assoc, List.cons_append, List.nil_append]
  have isScript : Parsing.opened "script".toList = .script "script".toList .plain [] := by decide
  have areLetters : ∀ letter ∈ "script".toList, Parsing.IsLetter letter :=
    forall_of_all (by decide)
  rw [spelled, Parsing.run_plain (by decide), Parsing.run_tag (by decide) areLetters,
    Parsing.run_greater isScript]

/-- Where the second script holds neither an end tag nor `<!--`, there are two scripts. -/
theorem scripts?_snippet {account site : String} (isGiven : account ≠ "")
    (noClosing : occurrences closing (content account site) = 0)
    (noComment : occurrences comment (content account site) = 0) :
    scripts? (snippet account site).toList =
      some [⟨String.ofList (firstTag account), ""⟩,
        ⟨"script", String.ofList (content account site)⟩] := by
  have rest : "></script>\n<script>".toList ++ content account site ++ closing ++ ['>'] =
      '>' :: ([] ++ closing ++
        '>' :: ("\n<script>".toList ++ (content account site ++ closing ++ '>' :: []))) := by
    have between : "></script>\n<script>".toList =
        '>' :: (closing ++ '>' :: "\n<script>".toList) := by
      decide +kernel
    rw [between]
    simp only [List.append_assoc, List.cons_append, List.nil_append]
  have second := Parsing.run_content noClosing noComment "script".toList [] []
  have first := @Parsing.run_content [] rfl rfl (firstTag account) []
    ("\n<script>".toList ++ (content account site ++ closing ++ '>' :: []))
  rw [run_secondTag, second] at first
  rw [scripts?, toList_snippet isGiven, rest, run_firstTag, first]
  simp only [Parsing.run, List.nil_append, String.ofList_nil, String.ofList_toList]

/-! ## The snippet -/

/-- The snippet for an account and a site as a page and its scripts are read. -/
structure ReadsBack (account site : String) : Prop where
  /-- The account stands in the address of the first script, and the second script has its text. -/
  layout : (snippet account site).toList =
    "<script async src=".toList ++ '"' :: (address.toList ++ query account ++ '"' ::
      ("></script>\n<script>".toList ++ content account site ++ closing ++ ['>']))
  inAddress : percentDecode? (unescape (query account)) = some account.toList
  tokens : tokens? (content account site) =
    some (setupTokens ++
      ([.word "gtag", .mark '(', .text "config", .mark ',', .text account, .mark ','] ++
        configurationTokens site ++ [.mark ')', .mark ';']))
  /-- No value is kept from ending a script. -/
  closings : occurrences closing (snippet account site).toList =
    2 + occurrences closing account.toList + occurrences closing (heldSite site)
  scripts : (∀ mark ∈ [closing, comment],
      occurrences mark account.toList = 0 ∧ occurrences mark (heldSite site) = 0) →
    scripts? (snippet account site).toList =
      some [⟨String.ofList (firstTag account), ""⟩,
        ⟨"script", String.ofList (content account site)⟩]

/-- Both values are read back as they were given.  The page has two ends of scripts just where
neither value has one. -/
theorem snippet_readsBack {account : String} (isGiven : account ≠ "") (site : String) :
    ReadsBack account site where
  layout := toList_snippet isGiven site
  inAddress := by rw [query, unescape_escapeAttribute, percentDecode?_percentEncode]
  tokens := tokens?_content account site
  closings := occurrences_closing_snippet isGiven site
  scripts noMarks := by
    have closingSpelled : closing = '<' :: "/script".toList := by decide
    have commentSpelled : comment = '<' :: "!--".toList := by decide
    obtain ⟨noClosingAccount, noClosingSite⟩ := noMarks closing List.mem_cons_self
    obtain ⟨noCommentAccount, noCommentSite⟩ :=
      noMarks comment (List.mem_cons_of_mem _ List.mem_cons_self)
    refine scripts?_snippet isGiven ?_ ?_
    · rw [closingSpelled] at noClosingAccount noClosingSite ⊢
      rw [occurrences_content (forall_of_all (by decide)), noClosingAccount, noClosingSite]
    · rw [commentSpelled] at noCommentAccount noCommentSite ⊢
      rw [occurrences_content (forall_of_all (by decide)), noCommentAccount, noCommentSite]

/-- An account and a site with characters of every sort. -/
theorem snippet_readsBack_quoted :
    scripts? (snippet "G<1>&\"\\" "docs.example.com").toList =
        some [⟨String.ofList (firstTag "G<1>&\"\\"), ""⟩,
          ⟨"script", String.ofList (content "G<1>&\"\\" "docs.example.com")⟩] ∧
      occurrences closing (snippet "G<1>&\"\\" "docs.example.com").toList = 2 := by
  have readsBack := @snippet_readsBack "G<1>&\"\\" (by decide) "docs.example.com"
  have noMarks : ∀ mark ∈ [closing, comment],
      occurrences mark "G<1>&\"\\".toList = 0 ∧
        occurrences mark (heldSite "docs.example.com") = 0 := by
    decide +kernel
  have noClosing := noMarks closing List.mem_cons_self
  refine ⟨readsBack.scripts noMarks, ?_⟩
  rw [readsBack.closings, noClosing.1, noClosing.2]

/-- An account can end the script that holds it. -/
theorem not_snippet_holds_two_closings :
    ¬ ∀ account site : String, account ≠ "" →
      occurrences closing (snippet account site).toList = 2 := by
  intro each
  have two := each "</script>" automaticSite (by decide)
  have marks : occurrences closing "</script>".toList = 1 ∧
      occurrences closing (heldSite automaticSite) = 0 := by
    decide +kernel
  rw [occurrences_closing_snippet (by decide), marks.1, marks.2] at two
  exact absurd two (by decide)

end ApiDocs.Analytics
