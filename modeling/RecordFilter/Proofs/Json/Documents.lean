import RecordFilter.Proofs.Json.Building
import RecordFilter.Proofs.Json.Rereading

/-!
# Documents read back

Both layouts of a value are taken apart into the same tokens, so both are read
back as the value, with every number as it is read once more. What is read is
always within reach of the reader, so it can be written and read again.
-/

namespace RecordFilter

namespace JsonValue

/-! ## Values written and read again -/

mutual

/-- The value with every number as it is read where it has been written. -/
def reread : JsonValue → JsonValue
  | .null => .null
  | .bool flag => .bool flag
  | .number numeral => .number numeral.reread
  | .string text => .string text
  | .array items => .array (rereadItems items)
  | .object members => .object (rereadMembers members)

def rereadItems : List JsonValue → List JsonValue
  | [] => []
  | item :: rest => reread item :: rereadItems rest

def rereadMembers : List (String × JsonValue) → List (String × JsonValue)
  | [] => []
  | (key, value) :: rest => (key, reread value) :: rereadMembers rest

end

theorem rereadItems_eq_map (items : List JsonValue) :
    rereadItems items = items.map reread := by
  induction items with
  | nil => rfl
  | cons item items ih => rw [rereadItems, ih, List.map_cons]

theorem rereadMembers_eq_map (members : JsonMembers) :
    rereadMembers members =
      members.map fun member => (member.1, member.2.reread) := by
  induction members with
  | nil => rfl
  | cons member members ih => rw [rereadMembers, ih, List.map_cons]

theorem compactItems_eq_map (items : List JsonValue) :
    compactItems items = items.map compact := by
  induction items with
  | nil => rfl
  | cons item items ih => rw [compactItems, ih, List.map_cons]

theorem compactMembers_eq_map (members : JsonMembers) :
    compactMembers members = members.map fun member =>
      JsonText.quoted member.1 ++ ":" ++ member.2.compact := by
  induction members with
  | nil => rfl
  | cons member members ih => rw [compactMembers, ih, List.map_cons]

variable {admits : JsonNumeral → Prop} {depth : Nat} {value : JsonValue}

/-- Numbers do not matter for the reach of the reader. -/
theorem Fits.reread (hfits : value.Fits admits depth) :
    value.reread.Fits (fun _ => True) depth := by
  induction hfits with
  | null => exact .null _
  | bool depth flag => exact .bool _ _
  | number depth hnumeral => exact .number _ trivial
  | string depth text => exact .string _ _
  | array hitems ih =>
      rw [JsonValue.reread, rereadItems_eq_map]
      exact .array (List.forall_mem_map.mpr ih)
  | object hkeys hmembers ih =>
      rw [JsonValue.reread, rereadMembers_eq_map]
      exact .object (List.pairwise_map.mpr hkeys) (List.forall_mem_map.mpr ih)

open JsonScan

theorem scans_bool (flag : Bool) :
    Scans (compact (.bool flag)).toList [.atom (.bool flag)] := by
  cases flag with
  | true => exact scans_true
  | false => exact scans_false

/-- A key, a colon with blanks behind it and a value. -/
theorem scans_member {key : String} {colon : String} {spaces : List Char}
    (hcolon : colon.toList = ':' :: spaces) (hspaces : AllSpaces spaces)
    {text : String} {tokens : List JsonToken}
    (htext : Scans text.toList tokens) :
    Scans (JsonText.quoted key ++ colon ++ text).toList
      (.string key :: .colon :: tokens) := by
  have hbehind :=
    isMark_colon.scans_cons (hspaces.scans_append htext)
  have hends := isMark_colon.endsTokens (spaces ++ text.toList)
  rw [String.toList_append, String.toList_append, List.append_assoc, hcolon]
  exact (scans_quoted key).append hbehind hends

theorem forall₂_scans {ι : Type} {items : List ι} {text : ι → String}
    {tokens : ι → List JsonToken}
    (hitems : ∀ item ∈ items, Scans (text item).toList (tokens item)) :
    List.Forall₂ (fun part => Scans part.toList) (items.map text)
      (items.map tokens) := by
  rw [List.forall₂_map_left_iff, List.forall₂_map_right_iff]
  exact List.forall₂_same.mpr hitems

theorem tokens_reread_array (items : List JsonValue) :
    (JsonValue.array items).reread.tokens =
      enclosed .openArray .closeArray
        (items.map fun item => item.reread.tokens) := by
  rw [reread, tokens, rereadItems_eq_map, itemTokens_eq_map, List.map_map]
  rfl

theorem tokens_reread_object (members : JsonMembers) :
    (JsonValue.object members).reread.tokens =
      enclosed .openObject .closeObject
        (members.map fun member =>
          .string member.1 :: .colon :: member.2.reread.tokens) := by
  rw [reread, tokens, rereadMembers_eq_map, memberTokens_eq_map, List.map_map]
  rfl

theorem scans_compact (hfits : value.Fits JsonNumeral.IsReadable depth) :
    Scans value.compact.toList value.reread.tokens := by
  induction hfits with
  | null => exact scans_null
  | bool depth flag => exact scans_bool flag
  | number depth hnumeral => exact JsonNumeral.scans_text hnumeral
  | string depth text => exact scans_quoted text
  | array hitems ih =>
      rw [compact, compactItems_eq_map, tokens_reread_array]
      exact scans_inBrackets (forall₂_scans ih)
  | object hkeys hmembers ih =>
      rw [compact, compactMembers_eq_map, tokens_reread_object]
      have hcolon : ":".toList = [':'] := rfl
      exact scans_inBraces (forall₂_scans fun member hmember =>
        scans_member hcolon allSpaces_nil (ih member hmember))

theorem read?_of_scans {text : List Char}
    (hfits : value.Fits admits JsonBuild.maxDepth)
    (hscans : Scans text value.reread.tokens) :
    read? text = some value.reread := by
  rw [read?, tokens?_of_scans hscans, Option.bind_some]
  exact JsonBuild.build_tokens hfits.reread

/-- What is written on one line is read as the value, with its numbers read once
more. -/
theorem read?_compact
    (hfits : value.Fits JsonNumeral.IsReadable JsonBuild.maxDepth) :
    read? value.compact.toList = some value.reread :=
  read?_of_scans hfits (scans_compact hfits)

end JsonValue

/-! ## What has been read -/

namespace JsonScan

open JsonBuild JsonNumeral

/-- Every token stands for what a document can hold. -/
def TokensFit (tokens : List JsonToken) : Prop :=
  ∀ token ∈ tokens, TokenFits IsReadable token

variable {tokens : List JsonToken} {state next : State} {c : Char}

theorem TokensFit.cons {token : JsonToken} (htoken : TokenFits IsReadable token)
    (htokens : TokensFit tokens) : TokensFit (token :: tokens) :=
  List.forall_mem_cons.mpr ⟨htoken, htokens⟩

end JsonScan

end RecordFilter
