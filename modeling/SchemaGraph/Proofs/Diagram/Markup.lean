import SchemaGraph.Proofs.Diagram.Ports

/-!
# What a label says

A markup is read as tags and the texts between them. In the label of a table the tags stand where
they were put: the texts of the schema add none and take none away, so the tags are the same for all
tables that differ in such texts only. And each of these texts is read back from its cell as it is.
-/

namespace SchemaGraph.Diagram

variable {α β : Type}

theorem bne_of_notMem {d : Char} {cs : List Char} (h : d ∉ cs) : ∀ c ∈ cs, (c != d) = true := by
  intro c hc
  rw [bne_iff_ne]
  rintro rfl
  exact h hc

/-- A tag of a markup, without its brackets, and the text between it and the next tag. -/
structure Piece where
  tag : String
  text : String
  deriving Repr, DecidableEq

namespace Piece

def markup (p : Piece) : String := "<" ++ p.tag ++ ">" ++ p.text

/-- The piece that follows an opening bracket. Its tag ends with the first closing bracket. -/
def ofChars (cs : List Char) : Piece :=
  { tag := String.ofList (cs.takeWhile (· != '>'))
    text := String.ofList (cs.dropWhile (· != '>')).tail }

/-- A piece whose tag has no brackets and whose text begins no tag. -/
@[mk_iff]
structure IsSound (p : Piece) : Prop where
  unopened : '<' ∉ p.tag.toList
  unclosed : '>' ∉ p.tag.toList
  tagless : '<' ∉ p.text.toList

instance (p : Piece) : Decidable p.IsSound := decidable_of_iff' _ (isSound_iff p)

theorem IsSound.escape {tag : String} (h : IsSound ⟨tag, ""⟩) (s : String) :
    IsSound ⟨tag, escape s⟩ :=
  { h with tagless := notMem_escape (by decide) s }

/-- The characters between the opening bracket of a piece and that of the next one. -/
def body (p : Piece) : List Char := p.tag.toList ++ '>' :: p.text.toList

theorem toList_markup (p : Piece) : p.markup.toList = '<' :: p.body := by
  simp [markup, body]

theorem IsSound.notMem_body {p : Piece} (h : p.IsSound) : '<' ∉ p.body := by
  simp [body, h.unopened, h.tagless]

theorem IsSound.ofChars_body {p : Piece} (h : p.IsSound) : ofChars p.body = p := by
  have inside := bne_of_notMem h.unclosed
  simp [ofChars, body, List.takeWhile_append_of_pos inside, List.dropWhile_append_of_pos inside]

end Piece

/-- The markup that pieces make. -/
def markupOf (ps : List Piece) : String := String.join (ps.map Piece.markup)

theorem markupOf_nil : markupOf [] = "" := rfl

theorem markupOf_cons (tag text : String) (ps : List Piece) :
    markupOf (⟨tag, text⟩ :: ps) = "<" ++ tag ++ ">" ++ text ++ markupOf ps := by
  rw [markupOf, List.map_cons, String.join_cons, Piece.markup, markupOf]

theorem markupOf_append (ps ps' : List Piece) :
    markupOf (ps ++ ps') = markupOf ps ++ markupOf ps' := by
  rw [markupOf, List.map_append, String.join_append, markupOf, markupOf]

/-- The pieces of a markup. Every opening bracket begins one. -/
def pieces (markup : String) : List Piece :=
  (markup.toList.splitOn '<').tail.map Piece.ofChars

def tags (markup : String) : List String := (pieces markup).map (·.tag)

/-- The name of a tag, before its attributes. -/
def tagName (tag : String) : String := String.ofList (tag.toList.takeWhile (· != ' '))

theorem tagName_of_blank {start : String} (h : ' ' ∉ start.toList) (attributes : String) :
    tagName (start ++ " " ++ attributes) = start := by
  simp [tagName, List.takeWhile_append_of_pos (bne_of_notMem h)]

/-- The texts of the cells among some pieces, where a cell may have begun with some text. The tags
within a cell are passed over. -/
def cellsIn : Option String → List Piece → List String
  | _, [] => []
  | none, p :: ps => if tagName p.tag = "TD" then cellsIn (some p.text) ps else cellsIn none ps
  | some text, p :: ps =>
    if tagName p.tag = "/TD" then text :: cellsIn none ps else cellsIn (some (text ++ p.text)) ps

theorem cellsIn_outside {tag : String} (h : tagName tag ≠ "TD") (text : String)
    (ps : List Piece) : cellsIn none (⟨tag, text⟩ :: ps) = cellsIn none ps := if_neg h

theorem cellsIn_start {tag : String} (h : tagName tag = "TD") (text : String)
    (ps : List Piece) : cellsIn none (⟨tag, text⟩ :: ps) = cellsIn (some text) ps := if_pos h

theorem cellsIn_inside {tag : String} (h : tagName tag ≠ "/TD") (text before : String)
    (ps : List Piece) :
    cellsIn (some before) (⟨tag, text⟩ :: ps) = cellsIn (some (before ++ text)) ps := if_neg h

theorem cellsIn_end {tag : String} (h : tagName tag = "/TD") (text before : String)
    (ps : List Piece) :
    cellsIn (some before) (⟨tag, text⟩ :: ps) = before :: cellsIn none ps := if_pos h

def cellTexts (markup : String) : List String := (cellsIn none (pieces markup)).map unescape

/-- Pieces are found again in the markup that they make. -/
theorem pieces_markupOf {ps : List Piece} (sound : ∀ p ∈ ps, p.IsSound) :
    pieces (markupOf ps) = ps := by
  -- what precedes the first piece is not looked at, so any text will do that begins no tag
  have split (lead : List Char) (tagless : '<' ∉ lead) :
      (lead ++ (markupOf ps).toList).splitOn '<' = lead :: ps.map Piece.body := by
    induction ps generalizing lead with
    | nil => simpa [markupOf_nil] using List.splitOn_eq_singleton tagless
    | cons p ps ih =>
        obtain ⟨first, rest⟩ := List.forall_mem_cons.mp sound
        rw [markupOf, List.map_cons, String.join_cons, ← markupOf, String.toList_append,
          Piece.toList_markup, List.cons_append, List.splitOn_append_cons_self_of_not_mem tagless,
          ih rest _ first.notMem_body, List.map_cons]
  have whole := split [] List.not_mem_nil
  rw [List.nil_append] at whole
  rw [pieces, whole, List.tail_cons, List.map_map]
  exact (List.map_congr_left fun p hp => (sound p hp).ofChars_body).trans ps.map_id

/-! ### The pieces of a label -/

/-- The tag of the cell with the name of a column. -/
def portTag (id : String) : String :=
  "TD" ++ " " ++ ("ALIGN=\"LEFT\" PORT=\"" ++ portName id ++ "\"")

def colorTag (color : Option String) : String :=
  "TD" ++ " " ++ ("COLSPAN=\"3\" BGCOLOR=\"" ++ headerColor color ++ "\"")

def tableTag : String := "TABLE BORDER=\"0\" CELLBORDER=\"1\" CELLSPACING=\"0\" CELLPADDING=\"4\""

def shownTitle (t : Table α) : String := if t.name == "" then "Unnamed" else t.name

def headerPieces (t : Table α) : List Piece :=
  [⟨"TR", ""⟩, ⟨colorTag t.color, ""⟩, ⟨"B", escape (shownTitle t)⟩, ⟨"/B", ""⟩, ⟨"/TD", ""⟩,
    ⟨"/TR", ""⟩]

def namePieces (c : Column) : List Piece :=
  if c.isPrimaryKey then [⟨portTag c.id, ""⟩, ⟨"U", escape c.name⟩, ⟨"/U", ""⟩, ⟨"/TD", ""⟩]
  else [⟨portTag c.id, escape c.name⟩, ⟨"/TD", ""⟩]

def rowPieces (c : Column) : List Piece :=
  [⟨"TR", ""⟩, ⟨"TD ALIGN=\"LEFT\"", keyMarker c⟩, ⟨"/TD", ""⟩] ++ namePieces c ++
    [⟨"TD ALIGN=\"LEFT\"", ""⟩, ⟨"FONT COLOR=\"#64748B\"", escape c.dataType⟩, ⟨"/FONT", ""⟩,
      ⟨"/TD", ""⟩, ⟨"/TR", ""⟩]

def labelPieces (t : Table α) : List Piece :=
  ⟨tableTag, ""⟩ :: (headerPieces t ++ t.columns.flatMap rowPieces ++ [⟨"/TABLE", ""⟩])

theorem markupOf_headerPieces (t : Table α) : markupOf (headerPieces t) = headerRow t := by
  -- the fixed texts, cut where tags begin and end
  have start : "<TR><TD COLSPAN=\"3\" BGCOLOR=\"" =
      "<" ++ "TR" ++ ">" ++ ("<" ++ ("TD" ++ " " ++ "COLSPAN=\"3\" BGCOLOR=\"")) := by decide
  have title : "\"><B>" = "\"" ++ ">" ++ ("<" ++ "B" ++ ">") := by decide
  have close : "</B></TD></TR>" =
      "<" ++ "/B" ++ ">" ++ ("<" ++ "/TD" ++ ">") ++ ("<" ++ "/TR" ++ ">") := by decide
  calc markupOf (headerPieces t)
      = "<TR><TD COLSPAN=\"3\" BGCOLOR=\"" ++ headerColor t.color ++ "\"><B>" ++
          escape (shownTitle t) ++ "</B></TD></TR>" := by
        rw [start, title, close]
        simp only [headerPieces, markupOf_cons, markupOf_nil, colorTag, String.append_assoc,
          String.append_empty, -String.reduceAppend]
    _ = headerRow t := rfl

theorem markupOf_namePieces (c : Column) : markupOf (namePieces c) =
    "<TD ALIGN=\"LEFT\" PORT=\"" ++ portName c.id ++ "\">" ++ shownName c ++ "</TD>" := by
  have start : "<TD ALIGN=\"LEFT\" PORT=\"" =
      "<" ++ ("TD" ++ " " ++ "ALIGN=\"LEFT\" PORT=\"") := by decide
  have startEnd : "\">" = "\"" ++ ">" := by decide
  have close : "</TD>" = "<" ++ "/TD" ++ ">" := by decide
  rw [start, startEnd, close, namePieces, shownName]
  cases c.isPrimaryKey
  case false =>
    simp only [Bool.false_eq_true, if_false, markupOf_cons, markupOf_nil, portTag,
      String.append_assoc, String.append_empty, -String.reduceAppend]
  case true =>
    have underlined : s!"<U>{escape c.name}</U>" =
        "<" ++ "U" ++ ">" ++ escape c.name ++ ("<" ++ "/U" ++ ">") := rfl
    rw [underlined]
    simp only [if_true, markupOf_cons, markupOf_nil, portTag, String.append_assoc,
      String.append_empty, -String.reduceAppend]

theorem markupOf_rowPieces (c : Column) : markupOf (rowPieces c) = columnRow c := by
  have keyCell : "<TR><TD ALIGN=\"LEFT\">" =
      "<" ++ "TR" ++ ">" ++ ("<" ++ "TD ALIGN=\"LEFT\"" ++ ">") := by decide
  have cellEnd : "</TD>" = "<" ++ "/TD" ++ ">" := by decide
  have typeCell : "<TD ALIGN=\"LEFT\"><FONT COLOR=\"#64748B\">" =
      "<" ++ "TD ALIGN=\"LEFT\"" ++ ">" ++ ("<" ++ "FONT COLOR=\"#64748B\"" ++ ">") := by decide
  have close : "</FONT></TD></TR>" =
      "<" ++ "/FONT" ++ ">" ++ ("<" ++ "/TD" ++ ">") ++ ("<" ++ "/TR" ++ ">") := by decide
  calc markupOf (rowPieces c)
      = "<TR><TD ALIGN=\"LEFT\">" ++ keyMarker c ++ "</TD>" ++ markupOf (namePieces c) ++
          ("<TD ALIGN=\"LEFT\"><FONT COLOR=\"#64748B\">" ++ escape c.dataType ++
            "</FONT></TD></TR>") := by
        rw [keyCell, cellEnd, typeCell, close]
        simp only [rowPieces, markupOf_append, markupOf_cons, markupOf_nil, String.append_assoc,
          String.append_empty, -String.reduceAppend]
    _ = columnRow c := by rw [markupOf_namePieces]; rfl

theorem markupOf_rows (cs : List Column) :
    markupOf (cs.flatMap rowPieces) = String.join (cs.map columnRow) := by
  induction cs with
  | nil => rfl
  | cons c cs ih =>
      rw [List.flatMap_cons, markupOf_append, markupOf_rowPieces, ih, List.map_cons,
        String.join_cons]

theorem tableMarkup_eq (t : Table α) : tableMarkup t = markupOf (labelPieces t) := by
  have start : "<TABLE BORDER=\"0\" CELLBORDER=\"1\" CELLSPACING=\"0\" CELLPADDING=\"4\">" =
      "<" ++ tableTag ++ ">" := by decide
  have close : "</TABLE>" = "<" ++ "/TABLE" ++ ">" := by decide
  unfold tableMarkup labelPieces
  rw [start, close]
  simp only [markupOf_append, markupOf_cons, markupOf_nil, markupOf_headerPieces, markupOf_rows,
    String.append_assoc, String.append_empty, -String.reduceAppend]

/-! ### The texts of a schema stay texts -/

theorem isSound_portTag (id : String) : Piece.IsSound ⟨portTag id, ""⟩ := by
  have notMem {d : Char} (special : isNameChar d = false) : d ∉ (portName id).toList :=
    fun left => absurd (isNameChar_of_mem_portName left) (by simp [special])
  exact {
    unopened := by simp [portTag, notMem (show isNameChar '<' = false by decide)]
    unclosed := by simp [portTag, notMem (show isNameChar '>' = false by decide)]
    tagless := List.not_mem_nil }

theorem isSound_colorTag (color : Option String) : Piece.IsSound ⟨colorTag color, ""⟩ := by
  have plain : ∀ code ∈ defaultHeaderColor :: headerColors.map Prod.snd,
      '<' ∉ code.toList ∧ '>' ∉ code.toList := by decide
  obtain ⟨unopened, unclosed⟩ := plain _ (headerColor_mem color)
  exact {
    unopened := by simp [colorTag, unopened]
    unclosed := by simp [colorTag, unclosed]
    tagless := List.not_mem_nil }

theorem isSound_of_mem_headerPieces {t : Table α} {p : Piece} (h : p ∈ headerPieces t) :
    p.IsSound := by
  revert p
  have title : Piece.IsSound ⟨"B", escape (shownTitle t)⟩ := .escape (by decide) _
  simp only [headerPieces, List.forall_mem_cons]
  exact ⟨by decide, isSound_colorTag t.color, title, by decide⟩

theorem isSound_of_mem_namePieces {c : Column} {p : Piece} (h : p ∈ namePieces c) :
    p.IsSound := by
  revert p
  rw [namePieces]
  split
  · have name : Piece.IsSound ⟨"U", escape c.name⟩ := .escape (by decide) _
    simp only [List.forall_mem_cons]
    exact ⟨isSound_portTag c.id, name, by decide⟩
  · simp only [List.forall_mem_cons]
    exact ⟨(isSound_portTag c.id).escape c.name, by decide⟩

theorem isSound_of_mem_rowPieces {c : Column} {p : Piece} (h : p ∈ rowPieces c) :
    p.IsSound := by
  revert p
  have key : Piece.IsSound ⟨"TD ALIGN=\"LEFT\"", keyMarker c⟩ :=
    (by decide : ∀ marker ∈ keyMarkers, Piece.IsSound ⟨"TD ALIGN=\"LEFT\"", marker⟩) _
      (keyMarker_mem c)
  have dataType : Piece.IsSound ⟨"FONT COLOR=\"#64748B\"", escape c.dataType⟩ :=
    .escape (by decide) _
  simp only [rowPieces, List.forall_mem_append, List.forall_mem_cons]
  exact ⟨⟨⟨by decide, key, by decide⟩, fun _ => isSound_of_mem_namePieces⟩,
    by decide, dataType, by decide⟩

theorem pieces_tableMarkup (t : Table α) : pieces (tableMarkup t) = labelPieces t := by
  rw [tableMarkup_eq]
  refine pieces_markupOf ?_
  simp only [labelPieces, List.forall_mem_append, List.forall_mem_cons, List.forall_mem_flatMap]
  exact ⟨by decide, ⟨fun _ => isSound_of_mem_headerPieces,
    fun _ _ _ => isSound_of_mem_rowPieces⟩, by decide⟩

def rowTags (isPrimaryKey : Bool) (id : String) : List String :=
  ["TR", "TD ALIGN=\"LEFT\"", "/TD"] ++
    (if isPrimaryKey then [portTag id, "U", "/U", "/TD"] else [portTag id, "/TD"]) ++
    ["TD ALIGN=\"LEFT\"", "FONT COLOR=\"#64748B\"", "/FONT", "/TD", "/TR"]

/-- The tags of a label, from the color of a table, and from the ids of the columns with whether
each is a primary key. -/
def labelTags (color : Option String) (keys : List (Bool × String)) : List String :=
  [tableTag, "TR", colorTag color, "B", "/B", "/TD", "/TR"] ++
    keys.flatMap (fun key => rowTags key.1 key.2) ++ ["/TABLE"]

theorem map_tag_rowPieces (c : Column) :
    (rowPieces c).map Piece.tag = rowTags c.isPrimaryKey c.id := by
  rw [rowPieces, namePieces, rowTags]
  cases c.isPrimaryKey <;> rfl

theorem tags_tableMarkup (t : Table α) : tags (tableMarkup t) =
    labelTags t.color (t.columns.map fun c => (c.isPrimaryKey, c.id)) := by
  rw [tags, pieces_tableMarkup, labelPieces, labelTags, List.map_cons, List.map_append,
    List.map_append, List.map_flatMap, List.flatMap_map]
  simp only [map_tag_rowPieces]
  rfl

theorem tagName_portTag (id : String) : tagName (portTag id) = "TD" :=
  tagName_of_blank (by decide) _

theorem tagName_colorTag (color : Option String) : tagName (colorTag color) = "TD" :=
  tagName_of_blank (by decide) _

theorem cellsIn_headerPieces (t : Table α) (ps : List Piece) :
    cellsIn none (headerPieces t ++ ps) = escape (shownTitle t) :: cellsIn none ps := by
  simp only [headerPieces, List.cons_append, List.nil_append]
  rw [cellsIn_outside (by decide), cellsIn_start (tagName_colorTag t.color),
    cellsIn_inside (by decide), cellsIn_inside (by decide), cellsIn_end (by decide),
    cellsIn_outside (by decide), String.empty_append, String.append_empty]

theorem cellsIn_namePieces (c : Column) (ps : List Piece) :
    cellsIn none (namePieces c ++ ps) = escape c.name :: cellsIn none ps := by
  rw [namePieces]
  cases c.isPrimaryKey
  case false =>
    simp only [Bool.false_eq_true, if_false, List.cons_append, List.nil_append]
    rw [cellsIn_start (tagName_portTag c.id), cellsIn_end (by decide)]
  case true =>
    simp only [if_true, List.cons_append, List.nil_append]
    rw [cellsIn_start (tagName_portTag c.id), cellsIn_inside (by decide),
      cellsIn_inside (by decide), cellsIn_end (by decide), String.empty_append,
      String.append_empty]

theorem cellsIn_rowPieces (c : Column) (ps : List Piece) : cellsIn none (rowPieces c ++ ps) =
    keyMarker c :: escape c.name :: escape c.dataType :: cellsIn none ps := by
  simp only [rowPieces, List.append_assoc, List.cons_append, List.nil_append]
  rw [cellsIn_outside (by decide), cellsIn_start (by decide), cellsIn_end (by decide),
    cellsIn_namePieces, cellsIn_start (by decide), cellsIn_inside (by decide),
    cellsIn_inside (by decide), cellsIn_end (by decide), cellsIn_outside (by decide),
    String.empty_append, String.append_empty]

theorem cellsIn_rows (cs : List Column) (ps : List Piece) :
    cellsIn none (cs.flatMap rowPieces ++ ps) =
      cs.flatMap (fun c => [keyMarker c, escape c.name, escape c.dataType]) ++ cellsIn none ps := by
  induction cs with
  | nil => rfl
  | cons c cs ih =>
      rw [List.flatMap_cons, List.append_assoc, cellsIn_rowPieces, ih, List.flatMap_cons]
      rfl

/-- Key markers have no entities. -/
theorem unescape_keyMarker (c : Column) : unescape (keyMarker c) = keyMarker c :=
  (by decide : ∀ marker ∈ keyMarkers, unescape marker = marker) _ (keyMarker_mem c)

theorem cellTexts_tableMarkup (t : Table α) : cellTexts (tableMarkup t) =
    shownTitle t :: t.columns.flatMap fun c => [keyMarker c, c.name, c.dataType] := by
  rw [cellTexts, pieces_tableMarkup, labelPieces, cellsIn_outside (by decide), List.append_assoc,
    cellsIn_headerPieces, cellsIn_rows, cellsIn_outside (by decide), cellsIn, List.append_nil,
    List.map_cons, List.map_flatMap, unescape_escape]
  simp only [List.map_cons, List.map_nil, unescape_keyMarker, unescape_escape]

/-- The label of a table is read back. Its tags are made from the color of the table and from the
ids of the columns with whether each is a primary key, so no other text of the schema has a part in
them. The texts of its cells are the texts of the schema. -/
theorem tableMarkup_isReadBack (t : Table α) :
    (tags (tableMarkup t) = labelTags t.color (t.columns.map fun c => (c.isPrimaryKey, c.id))) ∧
      (∀ t' : Table β, t'.color = t.color →
        (t'.columns.map fun c => (c.isPrimaryKey, c.id)) =
          (t.columns.map fun c => (c.isPrimaryKey, c.id)) →
        tags (tableMarkup t') = tags (tableMarkup t)) ∧
      cellTexts (tableMarkup t) = (if t.name = "" then "Unnamed" else t.name) ::
        t.columns.flatMap fun c => [keyMarker c, c.name, c.dataType] := by
  refine ⟨tags_tableMarkup t, fun t' color keys => ?_, ?_⟩
  · rw [tags_tableMarkup, tags_tableMarkup, color, keys]
  · rw [cellTexts_tableMarkup, shownTitle]
    simp only [beq_iff_eq]

end SchemaGraph.Diagram
