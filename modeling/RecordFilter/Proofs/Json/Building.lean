import RecordFilter.Json.Reader
import RecordFilter.Proofs.Json.Scanning

/-!
# Values put together from tokens

A value is within the reach of the reader if its arrays and objects do not stand
within each other too deeply and the members of every object stand in the order
of their keys. The tokens of such a value are put together to that value
wherever one may stand, and whatever is put together from tokens is such a
value.
-/

namespace RecordFilter

namespace JsonValue

/-- All numbers are admitted, the keys of every object ascend, and no more
arrays and objects stand within each other than the depth allows. -/
inductive Fits (admits : JsonNumeral → Prop) : Nat → JsonValue → Prop
  | null (depth : Nat) : Fits admits depth .null
  | bool (depth : Nat) (flag : Bool) : Fits admits depth (.bool flag)
  | number (depth : Nat) {numeral : JsonNumeral} (hnumeral : admits numeral) :
    Fits admits depth (.number numeral)
  | string (depth : Nat) (text : String) : Fits admits depth (.string text)
  | array {depth : Nat} {items : List JsonValue}
    (hitems : ∀ item ∈ items, Fits admits depth item) :
    Fits admits (depth + 1) (.array items)
  | object {depth : Nat} {members : JsonMembers}
    (hkeys : members.Pairwise fun one other => one.1 < other.1)
    (hmembers : ∀ member ∈ members, Fits admits depth member.2) :
    Fits admits (depth + 1) (.object members)

theorem Fits.mono {admits : JsonNumeral → Prop} {value : JsonValue}
    {depth more : Nat} (hfits : value.Fits admits depth)
    (hmore : depth ≤ more) :
    value.Fits admits more := by
  induction hfits generalizing more with
  | null => exact .null more
  | bool depth flag => exact .bool more flag
  | number depth hnumeral => exact .number more hnumeral
  | string depth text => exact .string more text
  | array hitems ih =>
      obtain ⟨more, rfl⟩ := Nat.exists_eq_add_of_lt hmore
      exact .array fun item hitem => ih item hitem (by omega)
  | object hkeys hmembers ih =>
      obtain ⟨more, rfl⟩ := Nat.exists_eq_add_of_lt hmore
      exact .object hkeys fun member hmember => ih member hmember (by omega)

/-! ## The tokens of a value -/

mutual

def tokens : JsonValue → List JsonToken
  | .null => [.atom .null]
  | .bool flag => [.atom (.bool flag)]
  | .number numeral => [.atom (.number numeral)]
  | .string text => [.string text]
  | .array items => JsonScan.enclosed .openArray .closeArray (itemTokens items)
  | .object members =>
    JsonScan.enclosed .openObject .closeObject (memberTokens members)

def itemTokens : List JsonValue → List (List JsonToken)
  | [] => []
  | item :: rest => tokens item :: itemTokens rest

def memberTokens : List (String × JsonValue) → List (List JsonToken)
  | [] => []
  | (key, value) :: rest =>
    (.string key :: .colon :: tokens value) :: memberTokens rest

end

theorem itemTokens_eq_map (items : List JsonValue) :
    itemTokens items = items.map tokens := by
  induction items with
  | nil => rfl
  | cons item items ih => rw [itemTokens, ih, List.map_cons]

/-- The tokens of a member of an object. -/
def tokensOfMember (member : String × JsonValue) : List JsonToken :=
  .string member.1 :: .colon :: member.2.tokens

theorem memberTokens_eq_map (members : JsonMembers) :
    memberTokens members = members.map tokensOfMember := by
  induction members with
  | nil => rfl
  | cons member members ih =>
      rw [memberTokens, ih, List.map_cons, tokensOfMember]

end JsonValue

/-! ## Members in order -/

namespace JsonMembers

variable {key : String} {value : JsonValue} {members : JsonMembers}

/-- A member that comes behind all others is added at the end. -/
theorem insert_eq_append {member : String × JsonValue} {others : JsonMembers}
    (hkeys : (members ++ member :: others).Pairwise
      fun one other => one.1 < other.1) :
    insert member.1 member.2 members = members ++ [member] := by
  induction members with
  | nil => rfl
  | cons first members ih =>
      obtain ⟨hfirst, hrest⟩ := List.pairwise_cons.mp hkeys
      have hless : first.1 < member.1 :=
        hfirst member (List.mem_append_right _ List.mem_cons_self)
      have hne : member.1 ≠ first.1 := by
        intro hsame
        rw [hsame] at hless
        exact String.lt_irrefl _ hless
      rw [insert, if_neg hne, if_neg (String.lt_asymm hless), ih hrest,
        List.cons_append]

theorem mem_insert {member : String × JsonValue}
    (hmember : member ∈ insert key value members) :
    member = (key, value) ∨ member ∈ members := by
  induction members with
  | nil => exact .inl (List.mem_singleton.mp hmember)
  | cons other members ih =>
      unfold insert at hmember
      split at hmember
      · rcases List.mem_cons.mp hmember with hnew | hold
        · exact .inl hnew
        · exact .inr (List.mem_cons_of_mem _ hold)
      · split at hmember
        · exact List.mem_cons.mp hmember
        · rcases List.mem_cons.mp hmember with rfl | hrest
          · exact .inr List.mem_cons_self
          · exact (ih hrest).imp_right (List.mem_cons_of_mem _)

theorem pairwise_insert
    (hkeys : members.Pairwise fun one other => one.1 < other.1) :
    (insert key value members).Pairwise fun one other => one.1 < other.1 := by
  induction members with
  | nil => exact List.pairwise_singleton _ _
  | cons first members ih =>
      obtain ⟨hfirst, hothers⟩ := List.pairwise_cons.mp hkeys
      unfold insert
      split
      case isTrue hsame =>
        subst hsame
        exact List.pairwise_cons.mpr ⟨hfirst, hothers⟩
      case isFalse hother =>
        split
        case isTrue hless =>
          refine List.pairwise_cons.mpr ⟨?_, hkeys⟩
          intro member hmember
          rcases List.mem_cons.mp hmember with rfl | hmember
          · exact hless
          · exact String.lt_trans hless (hfirst member hmember)
        case isFalse hnot =>
          have hgreater : first.1 < key := by
            by_contra hmore
            exact hother
              (String.le_antisymm (String.not_lt.mp hmore)
                (String.not_lt.mp hnot))
          refine List.pairwise_cons.mpr ⟨?_, ih hothers⟩
          intro member hmember
          rcases mem_insert hmember with rfl | hmember
          · exact hgreater
          · exact hfirst member hmember

end JsonMembers

namespace JsonBuild

open JsonScan

/-! ## From values to tokens and back -/

variable {admits : JsonNumeral → Prop} {frames : List Frame}
  {progress : Progress} {depth : Nat}

def StartsValue (progress : Progress) : Prop :=
  progress = .value ∨ progress = .firstItem

/-- The tokens are put together to the value wherever a value may stand that
takes no more than a depth. -/
def Builds (tokens : List JsonToken) (value : JsonValue) (depth : Nat) : Prop :=
  ∀ (frames : List Frame) {progress : Progress}, StartsValue progress →
    frames.length + depth ≤ maxDepth →
      tokens.foldlM step? ⟨frames, progress⟩ =
        some ⟨frames, .complete value⟩

theorem step?_of_startsValue (hstart : StartsValue progress) {token : JsonToken}
    (htoken : token ≠ .closeArray) :
    step? ⟨frames, progress⟩ token = startValue? frames token := by
  rcases hstart with rfl | rfl
  · rfl
  · cases token with
    | closeArray => exact absurd rfl htoken
    | openArray | openObject | closeObject | comma | colon | string | atom =>
        rfl

theorem builds_atom (value : JsonValue) (depth : Nat) :
    Builds [.atom value] value depth := by
  intro frames progress hstart _
  exact foldlM_cons_of_eq_some
    (step?_of_startsValue hstart (by simp)) []

theorem builds_string (text : String) (depth : Nat) :
    Builds [.string text] (.string text) depth := by
  intro frames progress hstart _
  exact foldlM_cons_of_eq_some
    (step?_of_startsValue hstart (by simp)) []

/-- The items that are still to come in an array, and its end. -/
theorem foldlM_items {first : JsonValue} {items : List JsonValue}
    (hitems : ∀ item ∈ first :: items, Builds item.tokens item depth)
    (hdepth : frames.length + 1 + depth ≤ maxDepth)
    (hstart : StartsValue progress) (before : List JsonValue) :
    List.foldlM step? ⟨.array before :: frames, progress⟩
        ([.comma].intercalate ((first :: items).map JsonValue.tokens) ++
          [.closeArray]) =
      some ⟨frames, .complete (.array (before.reverse ++ first :: items))⟩ := by
  have hfirst := hitems first List.mem_cons_self (.array before :: frames)
    hstart hdepth
  induction items generalizing first before progress with
  | nil =>
      have hclose :
          step? ⟨.array before :: frames, .complete first⟩ .closeArray =
            some ⟨frames, .complete (.array (first :: before).reverse)⟩ := rfl
      rw [List.map_singleton, List.intercalate_singleton,
        foldlM_append_of_eq_some hfirst, foldlM_cons_of_eq_some hclose,
        List.reverse_cons]
      rfl
  | cons next items ih =>
      have hothers : ∀ item ∈ next :: items, Builds item.tokens item depth :=
        fun item hitem => hitems item (List.mem_cons_of_mem _ hitem)
      have hcomma : step? ⟨.array before :: frames, .complete first⟩ .comma =
          some ⟨.array (first :: before) :: frames, .value⟩ := rfl
      have hnext := hothers next List.mem_cons_self
        (.array (first :: before) :: frames) (.inl rfl) hdepth
      have hrest := ih hothers (.inl rfl) (first :: before) hnext
      rw [List.map_cons] at hrest
      rw [List.map_cons, List.map_cons, List.intercalate_cons_cons,
        List.append_assoc, List.append_assoc, foldlM_append_of_eq_some hfirst,
        List.singleton_append, foldlM_cons_of_eq_some hcomma, hrest,
        List.reverse_cons, List.append_assoc, List.singleton_append]

theorem builds_array {items : List JsonValue}
    (hitems : ∀ item ∈ items, Builds item.tokens item depth) :
    Builds (JsonValue.array items).tokens (.array items) (depth + 1) := by
  intro frames progress hstart hdepth
  have hroom : frames.length < maxDepth := by omega
  have hopen : step? ⟨frames, progress⟩ .openArray =
      some ⟨.array [] :: frames, .firstItem⟩ := by
    rw [step?_of_startsValue hstart (by simp)]
    exact if_pos hroom
  have hinner : frames.length + 1 + depth ≤ maxDepth := by omega
  rw [JsonValue.tokens, enclosed, foldlM_cons_of_eq_some hopen,
    JsonValue.itemTokens_eq_map]
  cases items with
  | nil => rfl
  | cons first items => exact foldlM_items hitems hinner (.inr rfl) []

/-- A key may come behind some members. -/
def TakesKey (progress : Progress) (before : JsonMembers) : Prop :=
  progress = .firstKey ∧ before = [] ∨ progress = .key before

theorem foldlM_tokensOfMember {before : JsonMembers}
    (htakes : TakesKey progress before) {member : String × JsonValue}
    (hmember : Builds member.2.tokens member.2 depth)
    (hdepth : frames.length + 1 + depth ≤ maxDepth) :
    (JsonValue.tokensOfMember member).foldlM step? ⟨frames, progress⟩ =
      some ⟨.object before member.1 :: frames, .complete member.2⟩ := by
  have hkey : step? ⟨frames, progress⟩ (.string member.1) =
      some ⟨frames, .colon before member.1⟩ := by
    rcases htakes with ⟨rfl, rfl⟩ | rfl
    · rfl
    · rfl
  have hcolon : step? ⟨frames, .colon before member.1⟩ .colon =
      some ⟨.object before member.1 :: frames, .value⟩ := rfl
  rw [JsonValue.tokensOfMember, foldlM_cons_of_eq_some hkey,
    foldlM_cons_of_eq_some hcolon]
  exact hmember _ (.inl rfl) hdepth

/-- The members that are still to come in an object, and its end. -/
theorem foldlM_members {first : String × JsonValue} {members : JsonMembers}
    (hmembers : ∀ member ∈ first :: members,
      Builds member.2.tokens member.2 depth)
    (hdepth : frames.length + 1 + depth ≤ maxDepth) {before : JsonMembers}
    (hkeys : (before ++ first :: members).Pairwise
      fun one other => one.1 < other.1)
    (htakes : TakesKey progress before) :
    List.foldlM step? ⟨frames, progress⟩
        ([.comma].intercalate
            ((first :: members).map JsonValue.tokensOfMember) ++
          [.closeObject]) =
      some ⟨frames, .complete (.object (before ++ first :: members))⟩ := by
  induction members generalizing first before progress with
  | nil =>
      have hfirst := foldlM_tokensOfMember htakes
        (hmembers first List.mem_cons_self) hdepth
      have hclose :
          step? ⟨.object before first.1 :: frames, .complete first.2⟩
              .closeObject =
            some ⟨frames, .complete (.object (before ++ [first]))⟩ := by
        rw [← JsonMembers.insert_eq_append hkeys]
        rfl
      rw [List.map_singleton, List.intercalate_singleton,
        foldlM_append_of_eq_some hfirst, foldlM_cons_of_eq_some hclose]
      rfl
  | cons next members ih =>
      have hfirst := foldlM_tokensOfMember htakes
        (hmembers first List.mem_cons_self) hdepth
      have hcomma :
          step? ⟨.object before first.1 :: frames, .complete first.2⟩ .comma =
            some ⟨frames, .key (before ++ [first])⟩ := by
        rw [← JsonMembers.insert_eq_append hkeys]
        rfl
      have hothers : ∀ member ∈ next :: members,
          Builds member.2.tokens member.2 depth :=
        fun member hmember => hmembers member (List.mem_cons_of_mem _ hmember)
      have hsplit : before ++ first :: next :: members =
          before ++ [first] ++ next :: members := by
        rw [List.append_assoc, List.singleton_append]
      rw [hsplit] at hkeys ⊢
      have hrest := ih hothers hkeys (.inr rfl)
      rw [List.map_cons] at hrest
      rw [List.map_cons, List.map_cons, List.intercalate_cons_cons,
        List.append_assoc, List.append_assoc, foldlM_append_of_eq_some hfirst,
        List.singleton_append, foldlM_cons_of_eq_some hcomma, hrest]

theorem builds_object {members : JsonMembers}
    (hkeys : members.Pairwise fun one other => one.1 < other.1)
    (hmembers : ∀ member ∈ members, Builds member.2.tokens member.2 depth) :
    Builds (JsonValue.object members).tokens (.object members) (depth + 1) := by
  intro frames progress hstart hdepth
  have hroom : frames.length < maxDepth := by omega
  have hopen : step? ⟨frames, progress⟩ .openObject =
      some ⟨frames, .firstKey⟩ := by
    rw [step?_of_startsValue hstart (by simp)]
    exact if_pos hroom
  have hinner : frames.length + 1 + depth ≤ maxDepth := by omega
  rw [JsonValue.tokens, enclosed, foldlM_cons_of_eq_some hopen,
    JsonValue.memberTokens_eq_map]
  cases members with
  | nil => rfl
  | cons first members =>
      exact foldlM_members hmembers hinner hkeys (.inl ⟨rfl, rfl⟩)

theorem builds_of_fits {value : JsonValue} (hfits : value.Fits admits depth) :
    Builds value.tokens value depth := by
  induction hfits with
  | null | bool | number => exact builds_atom _ _
  | string depth text => exact builds_string text depth
  | array hitems ih => exact builds_array ih
  | object hkeys hmembers ih => exact builds_object hkeys ih

/-! ## What is put together -/

/-- The members of an object that has not ended yet. -/
structure MembersFit (admits : JsonNumeral → Prop) (depth : Nat)
    (members : JsonMembers) : Prop where
  ascending : members.Pairwise fun one other => one.1 < other.1
  fits : ∀ member ∈ members, member.2.Fits admits depth

def Frame.Fits (admits : JsonNumeral → Prop) (depth : Nat) : Frame → Prop
  | .array items => ∀ item ∈ items, item.Fits admits depth
  | .object members _ => MembersFit admits depth members

/-- Every frame leaves room for what stands within it. -/
def FramesFit (admits : JsonNumeral → Prop) : List Frame → Prop
  | [] => True
  | frame :: frames =>
      (∃ depth, frames.length + 1 + depth = maxDepth ∧
        frame.Fits admits depth) ∧
        FramesFit admits frames

def Progress.Fits (admits : JsonNumeral → Prop) (opened : Nat) :
    Progress → Prop
  | .value | .firstItem => True
  | .firstKey => opened < maxDepth
  | .key members | .colon members _ =>
      ∃ depth, opened + 1 + depth = maxDepth ∧
        MembersFit admits depth members
  | .complete found =>
      ∃ depth, opened + depth = maxDepth ∧ found.Fits admits depth

structure State.Fits (admits : JsonNumeral → Prop) (state : State) : Prop where
  frames : FramesFit admits state.frames
  progress : state.progress.Fits admits state.frames.length

/-- An atom is neither an array nor an object, and its number is admitted. -/
def TokenFits (admits : JsonNumeral → Prop) : JsonToken → Prop
  | .atom value => value.Fits admits 0
  | _ => True

theorem FramesFit.length_le (hframes : FramesFit admits frames) :
    frames.length ≤ maxDepth := by
  cases frames with
  | nil => exact Nat.zero_le _
  | cons frame frames =>
      obtain ⟨⟨depth, hdepth, -⟩, -⟩ := hframes
      rw [List.length_cons]
      omega

theorem State.Fits.complete (hframes : FramesFit admits frames)
    {value : JsonValue} (hvalue : value.Fits admits 0) :
    State.Fits admits ⟨frames, .complete value⟩ := by
  obtain ⟨room, hroom⟩ := Nat.exists_eq_add_of_le hframes.length_le
  exact ⟨hframes, room, hroom.symm, hvalue.mono (Nat.zero_le _)⟩

theorem MembersFit.insert {members : JsonMembers}
    (hmembers : MembersFit admits depth members) (key : String)
    {value : JsonValue} (hvalue : value.Fits admits depth) :
    MembersFit admits depth (JsonMembers.insert key value members) where
  ascending := JsonMembers.pairwise_insert hmembers.ascending
  fits := by
    intro member hmember
    rcases JsonMembers.mem_insert hmember with rfl | hmember
    · exact hvalue
    · exact hmembers.fits member hmember

theorem MembersFit.object {members : JsonMembers}
    (hmembers : MembersFit admits depth members) :
    (JsonValue.object members).Fits admits (depth + 1) :=
  .object hmembers.ascending hmembers.fits

theorem FramesFit.innermost {frame : Frame}
    (hframes : FramesFit admits (frame :: frames)) {room : Nat}
    (hroom : frames.length + 1 + room = maxDepth) :
    frame.Fits admits room := by
  obtain ⟨⟨depth, hdepth, hframe⟩, -⟩ := hframes
  obtain rfl : depth = room := by omega
  exact hframe

theorem FramesFit.tail (hframes : FramesFit admits frames) :
    FramesFit admits frames.tail ∧ frames.tail.length < maxDepth := by
  cases frames with
  | nil => exact ⟨trivial, by decide⟩
  | cons frame frames =>
      obtain ⟨⟨depth, hdepth, -⟩, hframes⟩ := hframes
      refine ⟨hframes, ?_⟩
      rw [List.tail_cons]
      omega

/-- The tokens of a value within reach are put together to that value. -/
theorem build_tokens {value : JsonValue} (hfits : value.Fits admits maxDepth) :
    (value.tokens.foldlM step? {}).bind finish? = some value := by
  have hbuilds := builds_of_fits hfits [] (.inl rfl) (Nat.le_of_eq rfl)
  rw [hbuilds, Option.bind_some]
  rfl

end JsonBuild

end RecordFilter
