import SafeCameroon.Library.Text

namespace SafeCameroon.Markup

def replaceChars (old : Char) (new : List Char) (chars : List Char) : List Char :=
  chars.flatMap fun c => if c = old then new else [c]

def replace (text : String) (old : Char) (new : String) : String :=
  String.ofList (replaceChars old new.toList text.toList)

theorem replaceChars_append (old : Char) (new first second : List Char) :
    replaceChars old new (first ++ second) =
      replaceChars old new first ++ replaceChars old new second := by
  simp [replaceChars]

theorem replaceChars_absent (old : Char) (new chars : List Char) (absent : old ∉ chars) :
    replaceChars old new chars = chars := by
  induction chars with
  | nil => rfl
  | cons c rest ih =>
      rw [List.mem_cons, not_or] at absent
      have tail : rest.flatMap (fun c => if c = old then new else [c]) = rest := ih absent.2
      simp [replaceChars, Ne.symm absent.1, tail]

def escapeChar (c : Char) : List Char :=
  if c = '&' then ['&', 'a', 'm', 'p', ';']
  else if c = '<' then ['&', 'l', 't', ';']
  else if c = '>' then ['&', 'g', 't', ';']
  else if c = '"' then ['&', 'q', 'u', 'o', 't', ';']
  else [c]

def escapeChars (chars : List Char) : List Char := chars.flatMap escapeChar

/-- The four entities read as the characters they stand for. -/
def unescapeChars : List Char → List Char
  | '&' :: 'a' :: 'm' :: 'p' :: ';' :: rest => '&' :: unescapeChars rest
  | '&' :: 'l' :: 't' :: ';' :: rest => '<' :: unescapeChars rest
  | '&' :: 'g' :: 't' :: ';' :: rest => '>' :: unescapeChars rest
  | '&' :: 'q' :: 'u' :: 'o' :: 't' :: ';' :: rest => '"' :: unescapeChars rest
  | c :: rest => c :: unescapeChars rest
  | [] => []

theorem unescapeChars_other (c : Char) (rest : List Char) (plain : c ≠ '&') :
    unescapeChars (c :: rest) = c :: unescapeChars rest := by
  rw [unescapeChars]
  all_goals
    intro _ same _
    exact absurd same plain

theorem unescapeChars_escapeChar (c : Char) (rest : List Char) :
    unescapeChars (escapeChar c ++ rest) = c :: unescapeChars rest := by
  unfold escapeChar
  split_ifs with ampersand less greater quote
  · subst ampersand
    rfl
  · subst less
    rfl
  · subst greater
    rfl
  · subst quote
    rfl
  · exact unescapeChars_other c rest ampersand

theorem unescapeChars_append (chars behind : List Char) :
    unescapeChars (escapeChars chars ++ behind) = chars ++ unescapeChars behind := by
  induction chars with
  | nil => rfl
  | cons c rest ih =>
      calc unescapeChars (escapeChars (c :: rest) ++ behind)
          = unescapeChars (escapeChar c ++ (escapeChars rest ++ behind)) := by simp [escapeChars]
        _ = c :: unescapeChars (escapeChars rest ++ behind) := unescapeChars_escapeChar c _
        _ = c :: rest ++ unescapeChars behind := by rw [ih, List.cons_append]

theorem unescapeChars_escapeChars (chars : List Char) : unescapeChars (escapeChars chars) = chars := by
  have read := unescapeChars_append chars []
  rwa [List.append_nil, unescapeChars, List.append_nil] at read

/-- A text that reads back as itself, whatever stands behind it. -/
def Inert (chars : List Char) : Prop :=
  ∀ behind, unescapeChars (chars ++ behind) = chars ++ unescapeChars behind

theorem Inert.append {first second : List Char} (inert : Inert first) (also : Inert second) :
    Inert (first ++ second) := by
  intro behind
  rw [List.append_assoc, inert, also, List.append_assoc]

theorem inert_of_no_entity {chars : List Char} (plain : ∀ c ∈ chars, c ≠ '&') : Inert chars := by
  intro behind
  induction chars with
  | nil => rfl
  | cons c rest ih =>
      have tail := ih fun other member => plain other (List.mem_cons_of_mem c member)
      rw [List.cons_append, unescapeChars_other c _ (plain c List.mem_cons_self), tail,
        List.cons_append]

def isMarkup (c : Char) : Bool := c == '<' || c == '>' || c == '"'

def Plain (chars : List Char) : Prop := ∀ c ∈ chars, isMarkup c = false

theorem all_plain (chars : List Char) :
    (chars.all fun c => !isMarkup c) = true ↔ Plain chars := by
  simp [Plain, List.all_eq_true]

instance (chars : List Char) : Decidable (Plain chars) := decidable_of_iff _ (all_plain chars)

theorem escapeChar_plain (c : Char) : Plain (escapeChar c) := by
  unfold escapeChar
  split_ifs with ampersand less greater quote
  · decide
  · decide
  · decide
  · decide
  · intro other member
    rw [List.mem_singleton.mp member]
    simp [isMarkup, less, greater, quote]

theorem escapeChars_plain (chars : List Char) : Plain (escapeChars chars) := by
  intro c member
  obtain ⟨origin, _, found⟩ := List.mem_flatMap.mp member
  exact escapeChar_plain origin c found

/-- A piece of markup as a reader sees it: the text up to its first tag, and each tag, with
everything in it, with the text behind it. -/
structure Page where
  opening : List Char
  rest : List (List Char × List Char)
  deriving DecidableEq, Repr

namespace Page

def tags (page : Page) : List (List Char) := page.rest.map Prod.fst

def texts (page : Page) : List (List Char) := page.opening :: page.rest.map Prod.snd

def push (c : Char) (page : Page) : Page := ⟨c :: page.opening, page.rest⟩

def pushTag (tag : List Char) (page : Page) : Page := ⟨[], (tag, page.opening) :: page.rest⟩

/-- Two pieces on end: the last text of the first goes on with the first text of the second. -/
def glue (opening : List Char) : List (List Char × List Char) → Page → Page
  | [], page => ⟨opening ++ page.opening, page.rest⟩
  | (tag, text) :: more, page =>
      ⟨opening, (tag, (glue text more page).opening) :: (glue text more page).rest⟩

instance : Append Page := ⟨fun first second => glue first.opening first.rest second⟩

theorem mk_append (opening : List Char) (rest : List (List Char × List Char)) (second : Page) :
    (⟨opening, rest⟩ : Page) ++ second = glue opening rest second := rfl

theorem push_append (c : Char) (first second : Page) :
    push c first ++ second = push c (first ++ second) := by
  obtain ⟨opening, rest⟩ := first
  cases rest with
  | nil => rfl
  | cons tag more => rfl

theorem pushTag_append (tag : List Char) (first second : Page) :
    pushTag tag first ++ second = pushTag tag (first ++ second) := rfl

theorem text_append (chars : List Char) (page : Page) :
    (⟨chars, []⟩ : Page) ++ page = ⟨chars ++ page.opening, page.rest⟩ := rfl

theorem tags_append (first second : Page) :
    (first ++ second).tags = first.tags ++ second.tags := by
  obtain ⟨opening, rest⟩ := first
  induction rest generalizing opening with
  | nil => rfl
  | cons head more ih =>
      obtain ⟨tag, text⟩ := head
      exact congrArg (List.cons tag) (ih text)

theorem texts_append {holds : List Char → Prop} {first second : Page}
    (join : ∀ {front back}, holds front → holds back → holds (front ++ back))
    (ours : ∀ text ∈ first.texts, holds text) (theirs : ∀ text ∈ second.texts, holds text) :
    ∀ text ∈ (first ++ second).texts, holds text := by
  obtain ⟨opening, rest⟩ := first
  induction rest generalizing opening with
  | nil =>
      intro text member
      rcases List.mem_cons.mp member with same | behind
      · rw [same]
        exact join (ours opening List.mem_cons_self) (theirs _ List.mem_cons_self)
      · exact theirs text (List.mem_cons_of_mem _ behind)
  | cons head more ih =>
      obtain ⟨tag, next⟩ := head
      intro text member
      rcases List.mem_cons.mp member with same | behind
      · rw [same]
        exact ours opening List.mem_cons_self
      · exact ih next (fun other found => ours other (List.mem_cons_of_mem _ found)) text behind

def render (page : Page) : List Char :=
  page.opening ++ page.rest.flatMap fun piece => '<' :: (piece.1 ++ '>' :: piece.2)

def spelled (opening : String) (pieces : List (String × String)) : Page :=
  ⟨opening.toList, pieces.map fun piece => (piece.1.toList, piece.2.toList)⟩

theorem tags_spelled (opening : String) (pieces : List (String × String)) :
    (spelled opening pieces).tags = (pieces.map Prod.fst).map String.toList := by
  simp [spelled, tags]

def mapTexts (change : List Char → List Char) (page : Page) : Page :=
  ⟨change page.opening, page.rest.map fun piece => (piece.1, change piece.2)⟩

theorem render_push (c : Char) (page : Page) : (push c page).render = c :: page.render := rfl

theorem render_pushTag (tag : List Char) (page : Page) :
    (pushTag tag page).render = '<' :: (tag ++ '>' :: page.render) := by
  simp [pushTag, render]

end Page

/-- Where a reader of markup is: in the text, or in a tag of which it has read so much, the latest
character first, perhaps inside a quoted value. -/
inductive Place where
  | text
  | tag (seen : List Char) (quoted : Bool)
  deriving DecidableEq, Repr

def scan : Place → List Char → Page × Place
  | place, [] => (⟨[], []⟩, place)
  | .text, c :: rest =>
      if c = '<' then scan (.tag [] false) rest
      else ((scan .text rest).1.push c, (scan .text rest).2)
  | .tag seen quoted, c :: rest =>
      if c = '>' ∧ quoted = false then
        ((scan .text rest).1.pushTag seen.reverse, (scan .text rest).2)
      else scan (.tag (c :: seen) (if c = '"' then !quoted else quoted)) rest

def read (chars : List Char) : Page := (scan .text chars).1

theorem scan_append (place : Place) (first second : List Char) :
    scan place (first ++ second) =
      ((scan place first).1 ++ (scan (scan place first).2 second).1,
        (scan (scan place first).2 second).2) := by
  induction first generalizing place with
  | nil => rfl
  | cons c rest ih =>
      cases place with
      | text =>
          simp only [List.cons_append, scan]
          split
          · exact ih _
          · rw [ih, Page.push_append]
      | tag seen quoted =>
          simp only [List.cons_append, scan]
          split
          · rw [ih, Page.pushTag_append]
          · exact ih _

/-- A piece of markup that leaves no tag open. -/
def Closed (chars : List Char) : Prop := (scan .text chars).2 = .text

instance (chars : List Char) : Decidable (Closed chars) :=
  inferInstanceAs (Decidable (_ = Place.text))

theorem scan_closed {chars : List Char} (closed : Closed chars) :
    scan .text chars = (read chars, .text) := Prod.ext rfl closed

theorem read_append {first : List Char} (closed : Closed first) (second : List Char) :
    read (first ++ second) = read first ++ read second := by
  rw [read, scan_append, closed]
  rfl

theorem Closed.append {first second : List Char} (closed : Closed first) (also : Closed second) :
    Closed (first ++ second) := by
  rw [Closed, scan_append, closed]
  exact also

def Place.pending : Place → List Char
  | .text => []
  | .tag seen _ => '<' :: seen.reverse

theorem render_scan (place : Place) (chars : List Char) (ends : (scan place chars).2 = .text) :
    (scan place chars).1.render = place.pending ++ chars := by
  induction chars generalizing place with
  | nil =>
      cases place with
      | text => rfl
      | tag seen quoted => exact absurd ends (by simp [scan])
  | cons c rest ih =>
      cases place with
      | text =>
          simp only [scan] at ends ⊢
          split at ends
          · next less =>
              rw [if_pos less, ih _ ends, less]
              rfl
          · next other =>
              rw [if_neg other, Page.render_push, ih _ ends]
              rfl
      | tag seen quoted =>
          simp only [scan] at ends ⊢
          split at ends
          · next closing =>
              rw [if_pos closing, Page.render_pushTag, ih _ ends, closing.1]
              rfl
          · next inside =>
              rw [if_neg inside, ih _ ends]
              simp [Place.pending]

theorem render_read {chars : List Char} (closed : Closed chars) : (read chars).render = chars :=
  render_scan .text chars closed

theorem scan_plain (chars : List Char) (plain : ∀ c ∈ chars, c ≠ '<') :
    scan .text chars = (⟨chars, []⟩, .text) := by
  induction chars with
  | nil => rfl
  | cons c rest ih =>
      rw [scan, if_neg (plain c List.mem_cons_self),
        ih fun other member => plain other (List.mem_cons_of_mem c member)]
      rfl

theorem Plain.no_tag {chars : List Char} (plain : Plain chars) : ∀ c ∈ chars, c ≠ '<' := by
  intro c member same
  have found := plain c member
  rw [same] at found
  exact absurd found (by decide)

theorem Plain.closed {chars : List Char} (plain : Plain chars) : Closed chars := by
  rw [Closed, scan_plain chars plain.no_tag]

theorem Plain.read {chars : List Char} (plain : Plain chars) : read chars = ⟨chars, []⟩ := by
  rw [Markup.read, scan_plain chars plain.no_tag]

theorem Plain.append {first second : List Char} (plain : Plain first) (also : Plain second) :
    Plain (first ++ second) := by
  intro c member
  rcases List.mem_append.mp member with front | back
  · exact plain c front
  · exact also c back

def PlainTexts (page : Page) : Prop := ∀ text ∈ page.texts, Plain text

instance (page : Page) : Decidable (PlainTexts page) :=
  inferInstanceAs (Decidable (∀ text ∈ page.texts, Plain text))

theorem PlainTexts.append {first second : Page} (ours : PlainTexts first)
    (theirs : PlainTexts second) : PlainTexts (first ++ second) :=
  Page.texts_append Plain.append ours theirs

theorem Plain.plainTexts {chars : List Char} (plain : Plain chars) : PlainTexts ⟨chars, []⟩ := by
  intro text member
  rw [List.mem_singleton.mp member]
  exact plain

/-- The text consists of these characters; a literal is told its own by `rfl`. -/
def Spells (text : String) (chars : List Char) : Prop := text = String.ofList chars

theorem Spells.toList {text : String} {chars : List Char} (spells : Spells text chars) :
    text.toList = chars := by
  rw [spells, String.toList_ofList]

theorem Spells.append {first second : String} {front back : List Char} (spells : Spells first front)
    (also : Spells second back) : Spells (first ++ second) (front ++ back) := by
  rw [Spells, spells, also, String.ofList_append]

theorem Spells.scan {text : String} {chars : List Char} {place : Place} {found : Page × Place}
    (spells : Spells text chars) (reads : Markup.scan place chars = found) :
    Markup.scan place text.toList = found := by
  rw [spells.toList]
  exact reads

def breakTag : List Char := ['<', 'b', 'r', '/', '>']

/-- The line breaks of a page read as the newlines they stand for. -/
def unbreak (opening : List Char) : List (List Char × List Char) → Page
  | [] => ⟨opening, []⟩
  | (tag, text) :: more =>
      if tag = ['b', 'r', '/'] then
        ⟨opening ++ '\n' :: (unbreak text more).opening, (unbreak text more).rest⟩
      else ⟨opening, (tag, (unbreak text more).opening) :: (unbreak text more).rest⟩

def Page.unbroken (page : Page) : Page := unbreak page.opening page.rest

theorem unbroken_of_no_break {page : Page} (none : ['b', 'r', '/'] ∉ page.tags) :
    page.unbroken = page := by
  obtain ⟨opening, rest⟩ := page
  induction rest generalizing opening with
  | nil => rfl
  | cons head more ih =>
      obtain ⟨tag, text⟩ := head
      have apart : ['b', 'r', '/'] ≠ tag ∧ ['b', 'r', '/'] ∉ more.map Prod.fst :=
        not_or.mp fun either => none (List.mem_cons.mpr either)
      have tail : unbreak text more = ⟨text, more⟩ := ih text apart.2
      have step : (⟨opening, (tag, text) :: more⟩ : Page).unbroken =
          if tag = ['b', 'r', '/'] then
            ⟨opening ++ '\n' :: (unbreak text more).opening, (unbreak text more).rest⟩
          else ⟨opening, (tag, (unbreak text more).opening) :: (unbreak text more).rest⟩ := rfl
      rw [step, if_neg (Ne.symm apart.1), tail]

theorem unbroken_spelled {opening : String} {pieces : List (String × String)}
    (none : "br/" ∉ pieces.map Prod.fst) :
    (Page.spelled opening pieces).unbroken = Page.spelled opening pieces := by
  apply unbroken_of_no_break
  rw [Page.tags_spelled]
  intro member
  obtain ⟨tag, listed, same⟩ := List.mem_map.mp member
  have named : tag = "br/" := String.toList_inj.mp same
  exact none (named ▸ listed)

theorem unbreak_prepend (chars opening : List Char) (rest : List (List Char × List Char)) :
    unbreak (chars ++ opening) rest = ⟨chars, []⟩ ++ unbreak opening rest := by
  cases rest with
  | nil => rfl
  | cons head more =>
      obtain ⟨tag, text⟩ := head
      simp only [unbreak, Page.text_append]
      split
      · rw [List.append_assoc]
      · rfl

theorem unbroken_append (first second : Page) :
    (first ++ second).unbroken = first.unbroken ++ second.unbroken := by
  obtain ⟨opening, rest⟩ := first
  induction rest generalizing opening with
  | nil => exact unbreak_prepend opening second.opening second.rest
  | cons head more ih =>
      obtain ⟨tag, text⟩ := head
      have tail : unbreak (Page.glue text more second).opening (Page.glue text more second).rest =
          unbreak text more ++ second.unbroken := ih text
      have whole : (⟨opening, (tag, text) :: more⟩ ++ second : Page).unbroken =
          unbreak opening ((tag, (Page.glue text more second).opening) ::
            (Page.glue text more second).rest) := rfl
      have front : (⟨opening, (tag, text) :: more⟩ : Page).unbroken =
          unbreak opening ((tag, text) :: more) := rfl
      rw [whole, front]
      simp only [unbreak]
      rw [tail]
      split
      · generalize unbreak text more = page
        obtain ⟨next, others⟩ := page
        cases others with
        | nil => simp [Page.mk_append, Page.glue]
        | cons _ _ => rfl
      · rfl

theorem scan_breaks (chars : List Char) (plain : Plain chars) :
    Closed (replaceChars '\n' breakTag chars) ∧
      (read (replaceChars '\n' breakTag chars)).tags =
        List.replicate (chars.count '\n') ['b', 'r', '/'] ∧
      (read (replaceChars '\n' breakTag chars)).unbroken = ⟨chars, []⟩ ∧
      PlainTexts (read (replaceChars '\n' breakTag chars)) := by
  induction chars with
  | nil => exact ⟨rfl, rfl, rfl, by decide⟩
  | cons c rest ih =>
      obtain ⟨closed, tags, text, plains⟩ :=
        ih fun other member => plain other (List.mem_cons_of_mem c member)
      have split : replaceChars '\n' breakTag (c :: rest) =
          (if c = '\n' then breakTag else [c]) ++ replaceChars '\n' breakTag rest := by
        simp [replaceChars]
      by_cases newline : c = '\n'
      · have one : Closed breakTag := by decide
        rw [split, if_pos newline, read_append one, Page.tags_append, unbroken_append, tags, text,
          newline, List.count_cons_self, List.replicate_succ]
        exact ⟨one.append closed, rfl, rfl, PlainTexts.append (by decide) plains⟩
      · have alone : Plain [c] := fun other member => plain other (by
          rw [List.mem_singleton.mp member]
          exact List.mem_cons_self)
        rw [split, if_neg newline, read_append alone.closed, Page.tags_append, unbroken_append, tags,
          text, alone.read, List.count_cons_of_ne newline]
        exact ⟨alone.closed.append closed, rfl, rfl, alone.plainTexts.append plains⟩

theorem count_escapeChars (chars : List Char) :
    (escapeChars chars).count '\n' = chars.count '\n' := by
  induction chars with
  | nil => rfl
  | cons c rest ih =>
      have one : (escapeChar c).count '\n' = [c].count '\n' := by
        unfold escapeChar
        split_ifs with ampersand less greater quote
        · subst ampersand
          rfl
        · subst less
          rfl
        · subst greater
          rfl
        · subst quote
          rfl
        · rfl
      calc (escapeChars (c :: rest)).count '\n'
          = (escapeChar c).count '\n' + (escapeChars rest).count '\n' := by
            simp [escapeChars, List.count_append]
        _ = [c].count '\n' + rest.count '\n' := by rw [one, ih]
        _ = (c :: rest).count '\n' := by rw [← List.count_append, List.singleton_append]

end SafeCameroon.Markup
