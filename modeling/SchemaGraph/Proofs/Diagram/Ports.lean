import SchemaGraph.Diagram
import SchemaGraph.Proofs.Diagram.Names

/-!
# Labels read as markup

Texts of the schema are escaped in the label of a table, so none of them passes for markup.

## Escaped text

A character that means something in a markup is written as its entity. So such a character does not
occur in an escaped text, but for the ampersand that begins an entity, and since ampersands are
escaped as well, every entity is read as the one character that it was written for.
-/

namespace SchemaGraph.Diagram

/-- Read each entity as the character that it stands for. -/
def unescapeChars : List Char → List Char
  | '&' :: 'a' :: 'm' :: 'p' :: ';' :: cs => '&' :: unescapeChars cs
  | '&' :: 'l' :: 't' :: ';' :: cs => '<' :: unescapeChars cs
  | '&' :: 'g' :: 't' :: ';' :: cs => '>' :: unescapeChars cs
  | '&' :: 'q' :: 'u' :: 'o' :: 't' :: ';' :: cs => '"' :: unescapeChars cs
  | '&' :: '#' :: 'x' :: '2' :: '7' :: ';' :: cs => '\'' :: unescapeChars cs
  | c :: cs => c :: unescapeChars cs
  | [] => []

def unescape (s : String) : String := String.ofList (unescapeChars s.toList)

theorem unescapeChars_cons {c : Char} (other : c ≠ '&') (cs : List Char) :
    unescapeChars (c :: cs) = c :: unescapeChars cs := by
  rw [unescapeChars]
  all_goals exact fun _ same _ => other same

theorem unescapeChars_escapeChar (c : Char) (cs : List Char) :
    unescapeChars (escapeChar c ++ cs) = c :: unescapeChars cs := by
  fun_cases escapeChar c
  case case6 ampersand _ _ _ _ => exact unescapeChars_cons ampersand cs
  all_goals rfl

/-- Escaped text is read back. -/
theorem unescape_escape (s : String) : unescape (escape s) = s := by
  rw [unescape, escape, String.toList_ofList, ← String.toList_inj, String.toList_ofList]
  induction s.toList with
  | nil => rfl
  | cons c cs ih => rw [List.flatMap_cons, unescapeChars_escapeChar, ih]

/-- The characters that begin and end tags and values. -/
def delimiters : List Char := ['<', '>', '"', '\'']

theorem notMem_escapeChar {d : Char} (special : d ∈ delimiters) (c : Char) : d ∉ escapeChar c := by
  simp only [delimiters, List.mem_cons, List.not_mem_nil, or_false] at special
  fun_cases escapeChar c
  case case6 _ lt gt quote apostrophe =>
    rw [List.mem_singleton]
    rintro rfl
    rcases special with same | same | same | same
    · exact lt same
    · exact gt same
    · exact quote same
    · exact apostrophe same
  all_goals rcases special with rfl | rfl | rfl | rfl <;> decide

/-- None of them is left in an escaped text. -/
theorem notMem_escape {d : Char} (special : d ∈ delimiters) (s : String) :
    d ∉ (escape s).toList := by
  intro left
  rw [escape, String.toList_ofList, List.mem_flatMap] at left
  obtain ⟨c, -, left⟩ := left
  exact notMem_escapeChar special c left

end SchemaGraph.Diagram

/-!
## The ports of a label

A drawing program reads the label of a table as markup: between quotation marks stand the values of
attributes, and before them the names. The ports that are read from the label of a table are those
of its columns, in their order, whatever the texts of the schema are.
-/

namespace SchemaGraph.Diagram

variable {α : Type}

/-- The values of the attributes that name a port, from the pieces of a markup between quotation
marks. Every other piece is a value, and the piece before it ends with the name of its attribute. -/
def portsIn : List (List Char) → List String
  | before :: value :: rest =>
      (if String.ofList before = " PORT=" then [String.ofList value] else []) ++ portsIn rest
  | _ => []

def ports (markup : String) : List String := portsIn (markup.toList.splitOn '"')

/-- A text without quotation marks. -/
def IsBare (s : String) : Prop := '"' ∉ s.toList

instance (s : String) : Decidable (IsBare s) := inferInstanceAs (Decidable (¬ _))

theorem isBare_append {s s' : String} : IsBare (s ++ s') ↔ IsBare s ∧ IsBare s' := by
  simp [IsBare, not_or]

theorem IsBare.between {start text close : String} (hs : IsBare start) (ht : IsBare text)
    (hc : IsBare close) : IsBare (start ++ text ++ close) :=
  isBare_append.mpr ⟨isBare_append.mpr ⟨hs, ht⟩, hc⟩

theorem isBare_escape (s : String) : IsBare (escape s) := notMem_escape (by decide) s

theorem isBare_portName (id : String) : IsBare (portName id) :=
  fun quote => absurd (isNameChar_of_mem_portName quote) (by decide)

/-- The markers that there are. -/
def keyMarkers : List String := ["", "PK", "FK", "PK FK"]

theorem keyMarker_mem (c : Column) : keyMarker c ∈ keyMarkers := by
  rw [keyMarker]
  cases c.isPrimaryKey <;> cases c.actsAsForeignKey <;> decide

theorem isBare_keyMarker (c : Column) : IsBare (keyMarker c) :=
  (by decide : ∀ marker ∈ keyMarkers, IsBare marker) _ (keyMarker_mem c)

theorem headerColor_mem (color : Option String) :
    headerColor color ∈ defaultHeaderColor :: headerColors.map Prod.snd := by
  rw [headerColor]
  cases found : headerColors.lookup (Text.lower (color.getD "")) with
  | none => exact List.mem_cons_self
  | some code =>
      obtain ⟨before, after, split, -⟩ := List.lookup_eq_some_iff.mp found
      simp [split]

theorem isBare_headerColor (color : Option String) : IsBare (headerColor color) :=
  (by decide : ∀ code ∈ defaultHeaderColor :: headerColors.map Prod.snd, IsBare code) _
    (headerColor_mem color)

theorem ports_of_isBare {s : String} (h : IsBare s) : ports s = [] := by
  rw [ports, List.splitOn_eq_singleton h, portsIn]
  simp

/-- A value between quotation marks, after the text up to them. -/
def withValue (before value : String) : String := before ++ "\"" ++ value ++ "\""

theorem append_withValue (lead before value : String) :
    lead ++ withValue before value = withValue (lead ++ before) value := by
  simp only [withValue, String.append_assoc]

/-- An attribute comes before those of the rest. -/
theorem ports_withValue {before value : String} (bare : IsBare before) (bareValue : IsBare value)
    (rest : String) : ports (withValue before value ++ rest) =
      (if before = " PORT=" then [value] else []) ++ ports rest := by
  have chars : (withValue before value ++ rest).toList =
      before.toList ++ '"' :: (value.toList ++ '"' :: rest.toList) := by
    simp [withValue]
  rw [ports, chars, List.splitOn_append_cons_self_of_not_mem bare,
    List.splitOn_append_cons_self_of_not_mem bareValue, portsIn, String.ofList_toList,
    String.ofList_toList, ports]

/-- Attributes that do not name a port are passed over. -/
theorem ports_skip {before value : String} (bare : IsBare before) (bareValue : IsBare value)
    (other : before ≠ " PORT=") (rest : String) :
    ports (withValue before value ++ rest) = ports rest := by
  rw [ports_withValue bare bareValue, if_neg other, List.nil_append]

/-- The first attribute of a tag does not name a port, whatever text is before the tag. -/
theorem ports_tag {lead tag value : String} (bareLead : IsBare lead) (bare : IsBare tag)
    (start : '<' ∈ tag.toList) (bareValue : IsBare value) (rest : String) :
    ports (lead ++ (withValue tag value ++ rest)) = ports rest := by
  have other : lead ++ tag ≠ " PORT=" := by
    intro same
    have start : '<' ∈ " PORT=".toList := by
      rw [← same, String.toList_append]
      exact List.mem_append_right _ start
    exact absurd start (by decide)
  rw [← String.append_assoc, append_withValue,
    ports_skip (isBare_append.mpr ⟨bareLead, bare⟩) bareValue other]

/-- The rest of a tag, and the text of its cell. -/
def cellText (s : String) : String := ">" ++ s ++ "</TD>"

theorem isBare_cellText {s : String} (h : IsBare s) : IsBare (cellText s) :=
  .between (by decide) h (by decide)

/-- The name of a column as its row shows it. -/
def shownName (c : Column) : String :=
  if c.isPrimaryKey then s!"<U>{escape c.name}</U>" else escape c.name

theorem isBare_shownName (c : Column) : IsBare (shownName c) := by
  rw [shownName]
  split
  · exact .between (by decide) (isBare_escape _) (by decide)
  · exact isBare_escape _

/-- What follows the last attribute of a row. -/
def rowEnd (c : Column) : String := ">" ++ escape c.dataType ++ "</FONT></TD></TR>"

theorem isBare_rowEnd (c : Column) : IsBare (rowEnd c) :=
  .between (by decide) (isBare_escape _) (by decide)

theorem columnRow_eq (c : Column) : columnRow c =
    withValue "<TR><TD ALIGN=" "LEFT" ++ (cellText (keyMarker c) ++
      (withValue "<TD ALIGN=" "LEFT" ++ (withValue " PORT=" (portName c.id) ++
        (cellText (shownName c) ++ (withValue "<TD ALIGN=" "LEFT" ++
          (withValue "><FONT COLOR=" "#64748B" ++ rowEnd c)))))) := by
  -- the fixed texts, cut where values begin and end
  have keyCell : "<TR><TD ALIGN=\"LEFT\">" = withValue "<TR><TD ALIGN=" "LEFT" ++ ">" := by decide
  have nameCell : "<TD ALIGN=\"LEFT\" PORT=\"" =
      withValue "<TD ALIGN=" "LEFT" ++ " PORT=" ++ "\"" := by decide
  have nameCellEnd : "\">" = "\"" ++ ">" := by decide
  have typeCell : "<TD ALIGN=\"LEFT\"><FONT COLOR=\"#64748B\">" =
      withValue "<TD ALIGN=" "LEFT" ++ withValue "><FONT COLOR=" "#64748B" ++ ">" := by decide
  calc columnRow c
      = "<TR><TD ALIGN=\"LEFT\">" ++ keyMarker c ++ "</TD>" ++
          ("<TD ALIGN=\"LEFT\" PORT=\"" ++ portName c.id ++ "\">" ++ shownName c ++ "</TD>") ++
          ("<TD ALIGN=\"LEFT\"><FONT COLOR=\"#64748B\">" ++ escape c.dataType ++
            "</FONT></TD></TR>") := rfl
    _ = _ := by
        rw [keyCell, nameCell, nameCellEnd, typeCell]
        simp only [withValue, cellText, rowEnd, String.append_assoc, -String.reduceAppend]

/-- The row of a column has one port, the one of the column. -/
theorem ports_columnRow {lead : String} (bareLead : IsBare lead) (c : Column) (rest : String) :
    ports (lead ++ (columnRow c ++ rest)) = portName c.id :: ports (rowEnd c ++ rest) := by
  have bareLeft : IsBare "LEFT" := by decide
  have bareCell : IsBare "<TD ALIGN=" := by decide
  have startCell : '<' ∈ "<TD ALIGN=".toList := by decide
  simp only [columnRow_eq, String.append_assoc]
  rw [ports_tag bareLead (by decide) (by decide) bareLeft,
    ports_tag (isBare_cellText (isBare_keyMarker c)) bareCell startCell bareLeft,
    ports_withValue (by decide) (isBare_portName c.id), if_pos rfl,
    ports_tag (isBare_cellText (isBare_shownName c)) bareCell startCell bareLeft,
    ports_skip (by decide) (by decide) (by decide), List.singleton_append]

theorem ports_columnRows (cs : List Column) {lead : String} (bareLead : IsBare lead) :
    ports (lead ++ (String.join (cs.map columnRow) ++ "</TABLE>")) = cs.map (portName ·.id) := by
  -- each row leaves its end before the next one, so the text before a row is any bare one
  induction cs generalizing lead with
  | nil => exact ports_of_isBare (isBare_append.mpr ⟨bareLead, by decide⟩)
  | cons c cs ih =>
      rw [List.map_cons, String.join_cons, String.append_assoc, ports_columnRow bareLead,
        ih (isBare_rowEnd c), List.map_cons]

/-- What follows the last attribute of a header. -/
def headerEnd (t : Table α) : String :=
  "><B>" ++ escape (if t.name == "" then "Unnamed" else t.name) ++ "</B></TD></TR>"

theorem isBare_headerEnd (t : Table α) : IsBare (headerEnd t) :=
  .between (by decide) (isBare_escape _) (by decide)

theorem headerRow_eq (t : Table α) : headerRow t =
    withValue "<TR><TD COLSPAN=" "3" ++ (withValue " BGCOLOR=" (headerColor t.color) ++
      headerEnd t) := by
  have start : "<TR><TD COLSPAN=\"3\" BGCOLOR=\"" =
      withValue "<TR><TD COLSPAN=" "3" ++ " BGCOLOR=" ++ "\"" := by decide
  have close : "\"><B>" = "\"" ++ "><B>" := by decide
  calc headerRow t
      = "<TR><TD COLSPAN=\"3\" BGCOLOR=\"" ++ headerColor t.color ++ "\"><B>" ++
          escape (if t.name == "" then "Unnamed" else t.name) ++ "</B></TD></TR>" := rfl
    _ = _ := by
        rw [start, close]
        simp only [withValue, headerEnd, String.append_assoc, -String.reduceAppend]

/-- The label of a table has the ports of its columns, in their order. -/
theorem ports_tableMarkup (t : Table α) :
    ports (tableMarkup t) = t.columns.map (portName ·.id) := by
  have start : "<TABLE BORDER=\"0\" CELLBORDER=\"1\" CELLSPACING=\"0\" CELLPADDING=\"4\">" =
      withValue "<TABLE BORDER=" "0" ++ (withValue " CELLBORDER=" "1" ++
        (withValue " CELLSPACING=" "0" ++ (withValue " CELLPADDING=" "4" ++ ">"))) := by decide
  unfold tableMarkup
  simp only [start, headerRow_eq, String.append_assoc]
  iterate 4 rw [ports_skip (by decide) (by decide) (by decide)]
  rw [ports_tag (by decide) (by decide) (by decide) (by decide),
    ports_skip (by decide) (isBare_headerColor t.color) (by decide),
    ports_columnRows t.columns (isBare_headerEnd t)]

end SchemaGraph.Diagram
