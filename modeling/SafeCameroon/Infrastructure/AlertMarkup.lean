import SafeCameroon.Infrastructure.Resend

namespace SafeCameroon.ResendEmailChannel

open Text Markup

/-- The replacements do not get in each other's way: no later one touches what an earlier one made. -/
theorem escapeHtml_toList (value : String) : (escapeHtml value).toList = escapeChars value.toList := by
  have parts : (escapeHtml value).toList =
      replaceChars '"' "&quot;".toList (replaceChars '>' "&gt;".toList
        (replaceChars '<' "&lt;".toList (replaceChars '&' "&amp;".toList value.toList))) := by
    simp [escapeHtml, replace]
  rw [parts]
  induction value.toList with
  | nil => rfl
  | cons c rest ih =>
      have single : replaceChars '"' "&quot;".toList (replaceChars '>' "&gt;".toList
          (replaceChars '<' "&lt;".toList (replaceChars '&' "&amp;".toList [c]))) = escapeChar c := by
        unfold escapeChar
        split_ifs with ampersand less greater quote
        · subst ampersand
          decide
        · subst less
          decide
        · subst greater
          decide
        · subst quote
          decide
        · rw [replaceChars_absent '&' _ [c] (by simpa using Ne.symm ampersand),
            replaceChars_absent '<' _ [c] (by simpa using Ne.symm less),
            replaceChars_absent '>' _ [c] (by simpa using Ne.symm greater),
            replaceChars_absent '"' _ [c] (by simpa using Ne.symm quote)]
      have split : c :: rest = [c] ++ rest := rfl
      rw [split, replaceChars_append, replaceChars_append, replaceChars_append, replaceChars_append,
        single, ih]
      rfl

def unescapeHtml (value : String) : String := String.ofList (unescapeChars value.toList)

theorem unescapeHtml_escapeHtml (value : String) : unescapeHtml (escapeHtml value) = value := by
  rw [unescapeHtml, escapeHtml_toList, unescapeChars_escapeChars, String.ofList_toList]

theorem escapeHtml_injective : Function.Injective escapeHtml :=
  Function.LeftInverse.injective unescapeHtml_escapeHtml

theorem escapeHtml_plain (value : String) : Plain (escapeHtml value).toList := by
  rw [escapeHtml_toList]
  exact escapeChars_plain value.toList

def withBreaks (text : String) : String := replace text '\n' "<br/>"

theorem withBreaks_toList (text : String) :
    (withBreaks text).toList = replaceChars '\n' breakTag text.toList := by
  simp [withBreaks, replace, breakTag]

theorem year_plain (year : Nat) : Plain (toString year).toList := by
  intro c member
  have digits : (toString year).toList = Nat.toDigits 10 year := by
    simp [toString, Nat.repr]
  rw [digits] at member
  have digit := Nat.isDigit_of_mem_toDigits (by decide) (by decide) member
  unfold isMarkup
  by_cases less : c = '<'
  · rw [less] at digit
    exact absurd digit (by decide)
  · by_cases greater : c = '>'
    · rw [greater] at digit
      exact absurd digit (by decide)
    · by_cases quote : c = '"'
      · rw [quote] at digit
        exact absurd digit (by decide)
      · simp [less, greater, quote]

/-- The tags of the page up to the brand, each with the text behind it. -/
def headPieces (brandName : String) : List (String × String) :=
  [("!DOCTYPE html", "\n"),
    ("html", "\n  "),
    ("body style=\"margin:0;padding:0;background-color:#020617;" ++
      "font-family:-apple-system,BlinkMacSystemFont,'Segoe UI',Roboto,sans-serif;\"", "\n    "),
    ("table role=\"presentation\" width=\"100%\" cellpadding=\"0\" cellspacing=\"0\" " ++
      "style=\"background-color:#020617;padding:32px 16px;\"", "\n      "),
    ("tr", "\n        "),
    ("td align=\"center\"", "\n          "),
    ("table role=\"presentation\" width=\"480\" cellpadding=\"0\" cellspacing=\"0\" " ++
      "style=\"max-width:480px;width:100%;background-color:#0f172a;" ++
      "border:1px solid rgba(255,255,255,0.08);border-radius:16px;overflow:hidden;\"",
      "\n            "),
    ("tr", "\n              "),
    ("td style=\"padding:28px 32px 0 32px;\"", "\n                "),
    ("table role=\"presentation\" cellpadding=\"0\" cellspacing=\"0\"",
      "\n                  "),
    ("tr", "\n                    "),
    ("td style=\"width:36px;height:36px;background:linear-gradient(135deg,#34d399,#059669);" ++
      "border-radius:10px;text-align:center;vertical-align:middle;font-size:18px;" ++
      "line-height:36px;\"", "&#128737;"),
    ("/td", "\n                    "),
    ("td style=\"padding-left:10px;color:#ffffff;font-size:16px;font-weight:700;" ++
      "font-family:-apple-system,BlinkMacSystemFont,'Segoe UI',Roboto,sans-serif;\"", brandName)]

/-- From the brand's cell to the cell of the pill. -/
def barPieces : List (String × String) :=
  [("/td", "\n                  "),
    ("/tr", "\n                "),
    ("/table", "\n              "),
    ("/td", "\n            "),
    ("/tr", "\n            "),
    ("tr", "\n              "),
    ("td style=\"padding:20px 32px 0 32px;\"", "\n                ")]

def pillTag (color : String) : String :=
  "span style=\"display:inline-block;background:" ++ color ++ "1a;color:" ++ color ++
    ";border:1px solid " ++ color ++
    "55;font-size:11px;font-weight:700;letter-spacing:0.04em;text-transform:uppercase;" ++
    "padding:4px 10px;border-radius:999px;font-family:-apple-system,BlinkMacSystemFont," ++
    "'Segoe UI',Roboto,sans-serif;\""

def pillPieces : Option (String × String) → List (String × String)
  | some pill => [(pillTag pill.1, pill.2), ("/span", "")]
  | none => []

def geographyPieces (geography : String) : List (String × String) :=
  [("span style=\"display:inline-block;margin-left:8px;color:#94a3b8;font-size:13px;" ++
    "font-family:-apple-system,BlinkMacSystemFont,'Segoe UI',Roboto,sans-serif;\"", geography)]

def restPieces (rest : String) : List (String × String) :=
  [("/span", "\n              "),
    ("/td", "\n            "),
    ("/tr", "\n            "),
    ("tr", "\n              "),
    ("td style=\"padding:16px 32px 24px 32px;color:#cbd5e1;font-size:14px;line-height:22px;" ++
      "font-family:-apple-system,BlinkMacSystemFont,'Segoe UI',Roboto,sans-serif;\"", rest)]

def footerPieces (footer : String) : List (String × String) :=
  [("/td", "\n            "),
    ("/tr", "\n            "),
    ("tr", "\n              "),
    ("td style=\"padding:20px 32px;border-top:1px solid rgba(255,255,255,0.06);" ++
      "text-align:center;color:#64748b;font-size:12px;font-family:-apple-system," ++
      "BlinkMacSystemFont,'Segoe UI',Roboto,sans-serif;\"", footer)]

def endPieces : List (String × String) :=
  [("/td", "\n            "),
    ("/tr", "\n          "),
    ("/table", "\n        "),
    ("/td", "\n      "),
    ("/tr", "\n    "),
    ("/table", "\n  "),
    ("/body", "\n"),
    ("/html", "")]

/-- The tags of every alert's page, in order and with their attributes: only the pill and its colour
and the number of line breaks in the rest are left open. -/
def alertTags (color : Option String) (breaks : Nat) : List String :=
  (headPieces "" ++ barPieces ++ pillPieces (color.map fun color => (color, "")) ++
    geographyPieces "" ++ restPieces "").map Prod.fst ++
      List.replicate breaks "br/" ++ (footerPieces "").map Prod.fst ++ ["br/"] ++
        endPieces.map Prod.fst

/-- The page with its texts in their places, the line breaks read as newlines. -/
def alertPage (year : Nat) (pill : Option (String × String)) (brandName geography rest : String) :
    Page :=
  Page.spelled "" (headPieces (brandName ++ " Alert") ++ barPieces ++ pillPieces pill ++
    geographyPieces geography ++
    restPieces ("\n                " ++ rest ++ "\n              ") ++
    footerPieces ("\n                " ++ brandName ++
      " &middot; Privacy-first civic-protection platform\n\n                &copy; " ++
      toString year ++ " " ++ brandName ++ "\n              ") ++ endPieces)

set_option maxRecDepth 20000 in
theorem template_read :
    scan .text beforeBrand.toList = (Page.spelled "" (headPieces ""), .text) ∧
    scan .text beforePill.toList = (Page.spelled " Alert" barPieces, .text) ∧
    scan .text beforeGeography.toList = (Page.spelled "" (geographyPieces ""), .text) ∧
    scan .text beforeRest.toList = (Page.spelled "" (restPieces "\n                "), .text) ∧
    scan .text beforeFooter.toList =
      (Page.spelled "\n              " (footerPieces "\n                "), .text) ∧
    scan .text beforeYear.toList =
      (Page.spelled " &middot; Privacy-first civic-protection platform"
        [("br/", "\n                &copy; ")], .text) ∧
    scan .text afterFooter.toList = (Page.spelled "\n              " endPieces, .text) := by
  unfold beforeBrand beforePill beforeGeography beforeRest beforeFooter beforeYear afterFooter
  refine ⟨?_, ?_, ?_, ?_, ?_, ?_, ?_⟩
  -- Each part is told its characters piece by piece, and then read as markup.
  all_goals
    apply Spells.scan
    · repeat' first | exact rfl | apply Spells.append
    · simp only [Page.spelled, headPieces, barPieces, geographyPieces, restPieces, footerPieces,
        endPieces, List.map_cons, List.map_nil, String.toList_append, String.reduceToList]
      decide +kernel

def pillOpening (color : String) : String :=
  "<span style=\"display:inline-block;background:" ++ color ++ "1a;color:" ++ color ++
    ";border:1px solid " ++ color ++
    "55;font-size:11px;font-weight:700;letter-spacing:0.04em;text-transform:uppercase;" ++
    "padding:4px 10px;border-radius:999px;font-family:-apple-system,BlinkMacSystemFont," ++
    "'Segoe UI',Roboto,sans-serif;\">"

set_option maxRecDepth 20000 in
theorem pillOpening_read (label : String) :
    scan .text (pillOpening (severityColor label)).toList =
      (Page.spelled "" [(pillTag (severityColor label), "")], .text) := by
  unfold severityColor
  split_ifs
  all_goals
    unfold pillOpening pillTag
    apply Spells.scan
    · repeat' first | exact rfl | apply Spells.append
    · simp only [Page.spelled, List.map_cons, List.map_nil, String.toList_append,
        String.reduceToList]
      decide +kernel

theorem severityPill_read (label text : String) (plain : Plain text.toList) :
    scan .text (severityPill (severityColor label) text).toList =
      (Page.spelled "" (pillPieces (some (severityColor label, text))), .text) := by
  have split : severityPill (severityColor label) text =
      pillOpening (severityColor label) ++ text ++ "</span>" := rfl
  have ending : scan .text "</span>".toList = (⟨[], [("/span".toList, [])]⟩, .text) := by
    decide +kernel
  rw [split, String.toList_append, String.toList_append, List.append_assoc, scan_append,
    pillOpening_read, scan_append, scan_plain text.toList plain.no_tag, ending]
  simp [Page.spelled, pillPieces, Page.mk_append, Page.glue]

def pillOf (label : Option String) : String :=
  match label with
  | some label => severityPill (severityColor label) (escapeHtml label)
  | none => ""

def pillShown (label : Option String) (shown : String → String) : Option (String × String) :=
  label.map fun label => (severityColor label, shown label)

theorem pillOf_read (label : Option String) : scan .text (pillOf label).toList =
    (Page.spelled "" (pillPieces (pillShown label escapeHtml)), .text) := by
  cases label with
  | none => decide
  | some label => exact severityPill_read label _ (escapeHtml_plain label)

theorem pillTag_not_break (label : String) : "br/" ≠ pillTag (severityColor label) := by
  unfold severityColor
  split_ifs
  all_goals
    unfold pillTag
    decide +kernel

theorem pillPieces_no_break (label : Option String) :
    "br/" ∉ (pillPieces (pillShown label escapeHtml)).map Prod.fst := by
  cases label with
  | none => decide
  | some label =>
      have tags : (pillPieces (pillShown (some label) escapeHtml)).map Prod.fst =
          [pillTag (severityColor label), "/span"] := by
        simp [pillPieces, pillShown]
      rw [tags, List.mem_cons, List.mem_singleton, not_or]
      exact ⟨pillTag_not_break label, by decide⟩

theorem pillPieces_plain (label : Option String) :
    PlainTexts (Page.spelled "" (pillPieces (pillShown label escapeHtml))) := by
  cases label with
  | none => decide
  | some label =>
      have shown : (Page.spelled "" (pillPieces (pillShown (some label) escapeHtml))).texts =
          [[], (escapeHtml label).toList, []] := by
        simp [Page.spelled, Page.texts, pillPieces, pillShown]
      rw [PlainTexts, shown]
      intro text member
      rcases List.mem_cons.mp member with same | behind
      · rw [same]
        decide
      · rcases List.mem_cons.mp behind with same | last
        · rw [same]
          exact escapeHtml_plain label
        · rw [List.mem_singleton.mp last]
          decide

theorem pillPieces_tags (label : Option String) :
    (Page.spelled "" (pillPieces (pillShown label escapeHtml))).tags =
      ((pillPieces ((label.map severityColor).map fun color => (color, ""))).map Prod.fst).map
        String.toList := by
  rw [Page.tags_spelled]
  cases label with
  | none => rfl
  | some label => simp [pillPieces, pillShown]

theorem alertTags_toList (color : Option String) (breaks : Nat) :
    (alertTags color breaks).map String.toList =
      ((headPieces "" ++ barPieces).map Prod.fst).map String.toList ++
        ((pillPieces (color.map fun color => (color, ""))).map Prod.fst).map String.toList ++
        ((geographyPieces "" ++ restPieces "").map Prod.fst).map String.toList ++
          List.replicate breaks ['b', 'r', '/'] ++
          ((footerPieces "").map Prod.fst ++ ["br/"] ++ endPieces.map Prod.fst).map String.toList := by
  have breakText : "br/".toList = ['b', 'r', '/'] := rfl
  rw [alertTags]
  simp only [List.map_append, List.map_replicate, List.append_assoc, breakText]

theorem document_toList (year : Nat) (pill brandName geography rest : String) :
    (document year pill brandName geography rest).toList =
      beforeBrand.toList ++ (brandName.toList ++ (beforePill.toList ++ (pill.toList ++
        (beforeGeography.toList ++ (geography.toList ++ (beforeRest.toList ++ (rest.toList ++
          (beforeFooter.toList ++ (brandName.toList ++ (beforeYear.toList ++
            ((toString year).toList ++ (" ".toList ++ (brandName.toList ++
              afterFooter.toList))))))))))))) := by
  simp only [document, String.toList_append, List.append_assoc, -String.reduceToList]

def pieces (year : Nat) (brandName geography : String) (pill rest : Page) : Page :=
  Page.spelled "" (headPieces "") ++ (⟨brandName.toList, []⟩ ++
    (Page.spelled " Alert" barPieces ++ (pill ++ (Page.spelled "" (geographyPieces "") ++
      (⟨geography.toList, []⟩ ++ (Page.spelled "" (restPieces "\n                ") ++ (rest ++
        (Page.spelled "\n              " (footerPieces "\n                ") ++
          (⟨brandName.toList, []⟩ ++
            (Page.spelled " &middot; Privacy-first civic-protection platform"
                [("br/", "\n                &copy; ")] ++
              (⟨(toString year).toList, []⟩ ++ (⟨" ".toList, []⟩ ++ (⟨brandName.toList, []⟩ ++
                Page.spelled "\n              " endPieces)))))))))))))

theorem document_read (year : Nat) {pill brandName geography rest : String}
    (brandPlain : Plain brandName.toList) (geographyPlain : Plain geography.toList)
    (pillClosed : Closed pill.toList) (restClosed : Closed rest.toList) :
    scan .text (document year pill brandName geography rest).toList =
      (pieces year brandName geography (read pill.toList) (read rest.toList), .text) := by
  obtain ⟨head, bar, area, before, footer, number, ending⟩ := template_read
  have blank : Plain " ".toList := by decide
  have texts : ∀ {chars : List Char}, Plain chars → scan .text chars = (⟨chars, []⟩, .text) :=
    fun plain => scan_plain _ plain.no_tag
  simp only [document_toList, scan_append, head, bar, area, before, footer, number, ending,
    texts brandPlain, texts geographyPlain, texts (year_plain year), texts blank,
    scan_closed pillClosed, scan_closed restClosed, -String.reduceToList]
  rfl

theorem pieces_tags (year : Nat) (brandName geography : String) (pill rest : Page) :
    (pieces year brandName geography pill rest).tags =
      ((headPieces "" ++ barPieces).map Prod.fst).map String.toList ++ pill.tags ++
        ((geographyPieces "" ++ restPieces "").map Prod.fst).map String.toList ++ rest.tags ++
          ((footerPieces "").map Prod.fst ++ ["br/"] ++ endPieces.map Prod.fst).map String.toList := by
  have bare : ∀ chars, (⟨chars, []⟩ : Page).tags = [] := fun _ => rfl
  simp only [pieces, Page.tags_append, Page.tags_spelled, bare, List.map_append, List.nil_append,
    List.append_assoc]
  rfl

theorem pieces_unbroken (year : Nat) (brandName geography : String)
    {pill : Option (String × String)} {pillPage rest : Page} {text : String}
    (pillRead : pillPage.unbroken = Page.spelled "" (pillPieces pill))
    (restRead : rest.unbroken = ⟨text.toList, []⟩) :
    (pieces year brandName geography pillPage rest).unbroken =
      alertPage year pill brandName geography text := by
  have bare : ∀ chars, (⟨chars, []⟩ : Page).unbroken = ⟨chars, []⟩ := fun _ => rfl
  have footerBreak : (Page.spelled " &middot; Privacy-first civic-protection platform"
      [("br/", "\n                &copy; ")]).unbroken =
        ⟨" &middot; Privacy-first civic-protection platform\n\n                &copy; ".toList, []⟩ := by
    decide +kernel
  have head : (Page.spelled "" (headPieces "")).unbroken = _ := unbroken_spelled (by decide +kernel)
  have bar : (Page.spelled " Alert" barPieces).unbroken = _ := unbroken_spelled (by decide +kernel)
  have area : (Page.spelled "" (geographyPieces "")).unbroken = _ :=
    unbroken_spelled (by decide +kernel)
  have before : (Page.spelled "" (restPieces "\n                ")).unbroken = _ :=
    unbroken_spelled (by decide +kernel)
  have footer : (Page.spelled "\n              " (footerPieces "\n                ")).unbroken = _ :=
    unbroken_spelled (by decide +kernel)
  have ending : (Page.spelled "\n              " endPieces).unbroken = _ :=
    unbroken_spelled (by decide +kernel)
  simp only [pieces, unbroken_append, bare, head, bar, area, before, footer, ending, footerBreak,
    pillRead, restRead]
  simp only [alertPage, Page.spelled, headPieces, barPieces, geographyPieces, restPieces, footerPieces,
    endPieces, List.map_append, List.map_cons, List.map_nil, List.cons_append, List.nil_append,
    Page.mk_append, Page.glue, String.toList_append, List.append_assoc, -String.reduceToList]
  cases pill with
  | none => simp [pillPieces, Page.glue, -String.reduceToList]
  | some shown => simp [pillPieces, Page.glue, -String.reduceToList]

theorem pieces_plain (year : Nat) {brandName geography : String} {pill rest : Page}
    (brandPlain : Plain brandName.toList) (geographyPlain : Plain geography.toList)
    (pillPlain : PlainTexts pill) (restPlain : PlainTexts rest) :
    PlainTexts (pieces year brandName geography pill rest) := by
  have brand := brandPlain.plainTexts
  have ending : PlainTexts (⟨brandName.toList, []⟩ ++ Page.spelled "\n              " endPieces) :=
    brand.append (by decide +kernel)
  have footer : PlainTexts (⟨(toString year).toList, []⟩ ++ (⟨" ".toList, []⟩ ++
      (⟨brandName.toList, []⟩ ++ Page.spelled "\n              " endPieces))) :=
    (year_plain year).plainTexts.append (PlainTexts.append (by decide) ending)
  refine PlainTexts.append (by decide +kernel) (brand.append (PlainTexts.append (by decide +kernel)
    (pillPlain.append (PlainTexts.append (by decide +kernel) (geographyPlain.plainTexts.append ?_)))))
  exact PlainTexts.append (by decide +kernel) (restPlain.append (PlainTexts.append (by decide +kernel)
    (brand.append (PlainTexts.append (by decide +kernel) footer))))

theorem year_inert (year : Nat) : Inert (toString year).toList := by
  apply inert_of_no_entity
  intro c member same
  have digits : (toString year).toList = Nat.toDigits 10 year := by
    simp [toString, Nat.repr]
  rw [digits] at member
  have digit := Nat.isDigit_of_mem_toDigits (by decide) (by decide) member
  rw [same] at digit
  exact absurd digit (by decide)

theorem unescapeHtml_between (front value back : String) (inert : Inert front.toList) :
    unescapeHtml (front ++ escapeHtml value ++ back) = front ++ value ++ unescapeHtml back := by
  unfold unescapeHtml
  rw [String.toList_append, String.toList_append, List.append_assoc, inert, escapeHtml_toList,
    unescapeChars_append]
  simp [String.append_assoc]

theorem alertPage_readBack (year : Nat) (label : Option String) (brandName geography rest : String) :
    (alertPage year (pillShown label escapeHtml) (escapeHtml brandName) (escapeHtml geography)
      (escapeHtml rest)).mapTexts unescapeChars =
        alertPage year (pillShown label id) brandName geography rest := by
  have mapped : ∀ pieces : List (String × String), (Page.spelled "" pieces).mapTexts unescapeChars =
      Page.spelled "" (pieces.map fun piece => (piece.1, unescapeHtml piece.2)) := by
    intro pieces
    simp [Page.spelled, Page.mapTexts, unescapeHtml, unescapeChars]
  have head : ∀ shown, (headPieces shown).map (fun piece => (piece.1, unescapeHtml piece.2)) =
      headPieces (unescapeHtml shown) := fun _ => rfl
  have bar : barPieces.map (fun piece => (piece.1, unescapeHtml piece.2)) = barPieces := rfl
  have area : ∀ shown, (geographyPieces shown).map (fun piece => (piece.1, unescapeHtml piece.2)) =
      geographyPieces (unescapeHtml shown) := fun _ => rfl
  have before : ∀ shown, (restPieces shown).map (fun piece => (piece.1, unescapeHtml piece.2)) =
      restPieces (unescapeHtml shown) := fun _ => rfl
  have footer : ∀ shown, (footerPieces shown).map (fun piece => (piece.1, unescapeHtml piece.2)) =
      footerPieces (unescapeHtml shown) := fun _ => rfl
  have ending : endPieces.map (fun piece => (piece.1, unescapeHtml piece.2)) = endPieces := rfl
  have pill : (pillPieces (pillShown label escapeHtml)).map
      (fun piece => (piece.1, unescapeHtml piece.2)) = pillPieces (pillShown label id) := by
    cases label with
    | none => rfl
    | some label =>
        have shown := unescapeHtml_escapeHtml label
        have nothing : unescapeHtml "" = "" := rfl
        simp [pillShown, pillPieces, shown, nothing]
  have brand : unescapeHtml (escapeHtml brandName ++ " Alert") = brandName ++ " Alert" := by
    have read := unescapeHtml_between "" brandName " Alert" (fun _ => rfl)
    rwa [String.empty_append, String.empty_append] at read
  have breaks : Inert "\n                ".toList := fun _ => rfl
  have text : unescapeHtml ("\n                " ++ escapeHtml rest ++ "\n              ") =
      "\n                " ++ rest ++ "\n              " := unescapeHtml_between _ rest _ breaks
  have between : Inert (" &middot; Privacy-first civic-protection platform\n\n                &copy; " ++
      toString year ++ " ").toList := by
    have front : Inert
        " &middot; Privacy-first civic-protection platform\n\n                &copy; ".toList :=
      fun _ => rfl
    have blank : Inert " ".toList := fun _ => rfl
    rw [String.toList_append, String.toList_append]
    exact (front.append (year_inert year)).append blank
  have last := unescapeHtml_between _ brandName "\n              " between
  have first := unescapeHtml_between "\n                " brandName
    (" &middot; Privacy-first civic-protection platform\n\n                &copy; " ++
      toString year ++ " " ++ escapeHtml brandName ++ "\n              ") breaks
  rw [last] at first
  have ends : unescapeHtml "\n              " = "\n              " := rfl
  simp only [ends, ← String.append_assoc] at first
  simp only [alertPage, mapped, List.map_append, head, bar, area, before, footer, ending, pill, brand,
    text, unescapeHtml_escapeHtml, first]

/-- What an alert's page shows of its brand and its message: the tags are the template's own, the texts
hold no markup, and they read back as what they were made from. -/
structure SafeMarkup (html : List Char) (year : Nat) (label : Option String)
    (brandName geography rest : String) : Prop where
  whole : (read html).render = html
  tags : (read html).tags =
    (alertTags (label.map severityColor) (rest.toList.count '\n')).map String.toList
  plain : PlainTexts (read html)
  segments : (read html).unbroken = alertPage year (pillShown label escapeHtml) (escapeHtml brandName)
    (escapeHtml geography) (escapeHtml rest)
  readBack : (read html).unbroken.mapTexts unescapeChars =
    alertPage year (pillShown label id) brandName geography rest

theorem alertHtml_eq (seconds : Nat) (body brandName : String) :
    alertHtml seconds body brandName =
      document (currentYear seconds) (pillOf (parseHeader (splitHeader body).1).1)
        (escapeHtml brandName) (escapeHtml (parseHeader (splitHeader body).1).2)
        (withBreaks (escapeHtml (trim (splitHeader body).2))) := by
  unfold alertHtml
  generalize splitHeader body = parts
  obtain ⟨header, rest⟩ := parts
  dsimp only
  generalize parseHeader header = parsed
  obtain ⟨label, geography⟩ := parsed
  dsimp only
  cases label with
  | none => rfl
  | some label => rfl

theorem document_safe (year : Nat) (label : Option String) (brandName geography rest : String) :
    SafeMarkup (document year (pillOf label) (escapeHtml brandName) (escapeHtml geography)
      (withBreaks (escapeHtml rest))).toList year label brandName geography rest := by
  have brandPlain := escapeHtml_plain brandName
  have geographyPlain := escapeHtml_plain geography
  obtain ⟨breaksClosed, breaksTags, breaksRead, breaksPlain⟩ :=
    scan_breaks (escapeHtml rest).toList (escapeHtml_plain rest)
  have newlines : (escapeHtml rest).toList.count '\n' = rest.toList.count '\n' := by
    rw [escapeHtml_toList, count_escapeChars]
  rw [← withBreaks_toList] at breaksClosed breaksTags breaksRead breaksPlain
  have pillScan := pillOf_read label
  have pillClosed : Closed (pillOf label).toList := congrArg Prod.snd pillScan
  have pillRead : read (pillOf label).toList =
      Page.spelled "" (pillPieces (pillShown label escapeHtml)) := congrArg Prod.fst pillScan
  have pillPlain : PlainTexts (read (pillOf label).toList) := by
    rw [pillRead]
    exact pillPieces_plain label
  have scanned := document_read year brandPlain geographyPlain pillClosed breaksClosed
  have page : read (document year (pillOf label) (escapeHtml brandName) (escapeHtml geography)
      (withBreaks (escapeHtml rest))).toList =
        pieces year (escapeHtml brandName) (escapeHtml geography) (read (pillOf label).toList)
          (read (withBreaks (escapeHtml rest)).toList) := congrArg Prod.fst scanned
  have pillUnbroken : (read (pillOf label).toList).unbroken =
      Page.spelled "" (pillPieces (pillShown label escapeHtml)) := by
    rw [pillRead, unbroken_spelled (pillPieces_no_break label)]
  have segments := pieces_unbroken year (escapeHtml brandName) (escapeHtml geography) pillUnbroken
    breaksRead
  constructor
  · exact render_read (congrArg Prod.snd scanned)
  · rw [page, pieces_tags, pillRead, pillPieces_tags, breaksTags, newlines, alertTags_toList]
  · rw [page]
    exact pieces_plain year brandPlain geographyPlain pillPlain breaksPlain
  · rw [page, segments]
  · rw [page, segments, alertPage_readBack]

theorem alert_html_safe :
    (∀ seconds body brandName, SafeMarkup (alertHtml seconds body brandName).toList
      (currentYear seconds) (parseHeader (splitHeader body).1).1 brandName
      (parseHeader (splitHeader body).1).2 (trim (splitHeader body).2)) ∧
      Function.Injective escapeHtml ∧ Function.LeftInverse unescapeHtml escapeHtml := by
  refine ⟨?_, escapeHtml_injective, unescapeHtml_escapeHtml⟩
  intro seconds body brandName
  rw [alertHtml_eq]
  exact document_safe _ _ _ _ _

end SafeCameroon.ResendEmailChannel
