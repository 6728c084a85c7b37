import LogSift.Proofs.Readers

/-!
The names of groups. An expression that has been read names its groups as its text does: every name
stands behind the sign of a named group, up to the next closing angle bracket (`read_written`), and the
list of a regular expression has no other names (`written_of_mem_groups`).
-/

namespace LogSift.Regex

/-- A group with a name is written in a text. -/
def Written (cs : List Char) (name : String) : Prop :=
  '>' ∉ name.toList ∧ ∃ sign ∈ Reader.signs, sign.toList ++ name.toList ++ ['>'] <:+: cs

variable {cs rest : List Char} {name : String}

theorem Written.of_suffix (written : Written rest name) (suffix : rest <:+ cs) : Written cs name := by
  obtain ⟨apart, sign, known, stands⟩ := written
  exact ⟨apart, sign, known, stands.trans suffix.isInfix⟩

/-! ### The names in a tree -/

namespace Expr

/-- The names of the groups of an expression. -/
def names (e : Expr) : List String := e.groups.filterMap (·.2)

@[simp] theorem names_capture (index : Nat) (name : Option String) (body : Expr) :
    (capture index name body).names = name.toList ++ body.names := by
  cases name <;> simp [names, groups]

@[simp] theorem groups_seqAll (es : List Expr) : (seqAll es).groups = es.flatMap groups := by
  induction es with
  | nil => rfl
  | cons e es ih =>
    cases es with
    | nil => simp [seqAll]
    | cons e' es => simpa [seqAll, groups] using ih

@[simp] theorem groups_altAll (es : List Expr) : (altAll es).groups = es.flatMap groups := by
  induction es with
  | nil => rfl
  | cons e es ih =>
    cases es with
    | nil => simp [altAll]
    | cons e' es => simpa [altAll, groups] using ih

theorem names_seqAll (es : List Expr) : (seqAll es).names = es.flatMap names := by
  rw [names, groups_seqAll, List.filterMap_flatMap]
  rfl

theorem names_altAll (es : List Expr) : (altAll es).names = es.flatMap names := by
  rw [names, groups_altAll, List.filterMap_flatMap]
  rfl

/-- A repetition has the groups of what it repeats, or none. -/
theorem names_repeatOf (min : Nat) (max : Option Nat) (greedy : Bool) (body : Expr) :
    (repeatOf min max greedy body).names ⊆ body.names := by
  unfold repeatOf
  generalize (if body.isWidthless then Nat.min min 1 else min) = least
  generalize (if body.isWidthless then some (Nat.min (max.getD 1) 1) else max) = most
  dsimp only
  split
  · exact List.nil_subset _
  · split <;> exact List.Subset.refl _

end Expr

/-! ### The names that a reader holds -/

/-- The names of the groups in some items. -/
def Item.namesAll (items : List Item) : List String := items.flatMap (·.expr.names)

namespace Level

def held (level : Level) : List String := Item.namesAll level.branches ++ Item.namesAll level.items

theorem names_branch (level : Level) : level.branch.expr.names ⊆ Item.namesAll level.items := by
  intro name member
  obtain ⟨e, among, named⟩ := List.mem_flatMap.1 (Expr.names_seqAll _ ▸ member)
  obtain ⟨item, kept, rfl⟩ := List.mem_map.1 among
  have own := List.mem_reverse.1 (List.mem_filter.1 kept).1
  exact List.mem_flatMap.2 ⟨item, own, named⟩

theorem held_nextBranch (level : Level) : level.nextBranch.held ⊆ level.held := by
  have branch := level.names_branch
  intro name member
  simp only [nextBranch, held, Item.namesAll, List.flatMap_cons, List.flatMap_nil,
    List.append_nil, List.mem_append] at member branch ⊢
  exact member.elim (fun inside => .inr (branch inside)) .inl

theorem names_close (level : Level) : level.close.expr.names ⊆ level.held := by
  unfold close
  split
  · exact fun name member => List.mem_append_right _ (level.names_branch member)
  · intro name member
    rw [Expr.names_altAll] at member
    obtain ⟨e, among, named⟩ := List.mem_flatMap.1 member
    obtain ⟨item, branch, rfl⟩ := List.mem_map.1 among
    rcases List.mem_cons.1 (List.mem_reverse.1 branch) with rfl | earlier
    · exact List.mem_append_right _ (level.names_branch named)
    · exact List.mem_append_left _ (List.mem_flatMap.2 ⟨item, earlier, named⟩)

@[simp] theorem held_push (level : Level) (item : Item) :
    name ∈ (level.push item).held ↔ name ∈ item.expr.names ∨ name ∈ level.held := by
  simp only [push, held, Item.namesAll, List.flatMap_cons, List.mem_append]
  exact or_left_comm

end Level

/-- The names of a group that is open and of those before it. -/
def OpenGroup.held (group : OpenGroup) : List String :=
  (group.capture.bind (·.2)).toList ++ group.level.held

namespace Reader

variable {r r' final : Reader} {flags : Flags} {min : Nat} {max : Option Nat} {greedy : Bool}
  {expr : Expr}

/-- The names of the groups read so far, open ones among them. -/
def held (r : Reader) : List String := r.level.held ++ r.outer.flatMap OpenGroup.held

theorem held_push {item : Item} (plain : item.expr.names = []) :
    (r.push item rest).held ⊆ r.held := by
  intro name member
  rcases List.mem_append.1 member with here | outside
  · rcases (Level.held_push _ _).1 here with own | earlier
    · rw [plain] at own
      cases own
    · exact List.mem_append_left _ earlier
  · exact List.mem_append_right _ outside

/-- A group that is opened adds its own name. -/
theorem held_enter (r : Reader) (capture : Option (Nat × Option String)) (flags : Flags)
    (rest : List Char) : name ∈ (r.enter capture flags rest).held ↔
      name ∈ (capture.bind (·.2)).toList ∨ name ∈ r.held := by
  simp [enter, held, Level.held, Item.namesAll, OpenGroup.held]

theorem held_withFlags {found : Flags} {any : Bool} (read : r.withFlags found any cs = .ok r') :
    r'.held ⊆ r.held := by
  unfold withFlags at read
  split at read
  · cases read
    intro name member
    simpa using (held_enter r none found _).1 member
  · next c rest _ =>
    split at read
    · cases read
      have pushed : (r.push ⟨.empty, 0, true⟩ rest).held ⊆ r.held := held_push rfl
      exact pushed
    · cases read
  · cases read

theorem held_openGroup (read : r.openGroup cs = .ok r') (member : name ∈ r'.held) :
    name ∈ r.held ∨ Written cs name := by
  rcases openGroup_cases read with ⟨sign, spelled, rest, head⟩ | ⟨_, _, _, _, _, _, _, _, read⟩ | ⟨_, rfl⟩
  · obtain ⟨known, begun, apart, _, _, rfl⟩ := head
    have entered : name = .ofList spelled ∨ name ∈ r.held := by
      simpa using (held_enter r (some (r.groups + 1, some (.ofList spelled))) r.flags rest).1 member
    refine entered.symm.imp_right ?_
    rintro rfl
    have written : Written (r.flags.skip cs) (.ofList spelled) :=
      ⟨by simpa using apart, sign, known, [], rest, by simp [begun]⟩
    exact written.of_suffix (Flags.steady_skip r.flags cs).suffix
  · exact .inl (held_withFlags read member)
  · have entered := (held_enter r (some (r.groups + 1, none)) r.flags (r.flags.skip cs)).1 member
    exact .inl (by simpa using entered)

/-- What is in a group that is closed is in its item. -/
theorem held_closeGroup (read : r.closeGroup cs = .ok r') : r'.held ⊆ r.held := by
  unfold closeGroup at read
  split at read
  · cases read
  · next capture flags level outer opened =>
    cases read
    intro name member
    have inside := r.level.names_close
    simp only [held, opened, List.mem_append, List.flatMap_cons, OpenGroup.held, Level.held_push]
      at member ⊢
    rcases member with (own | before) | around
    · cases capture with
      | none => exact .inl (inside own)
      | some capture =>
        obtain ⟨index, sign⟩ := capture
        simp only [Expr.names_capture, List.mem_append] at own
        exact own.elim (fun named => .inr (.inl (.inl named))) fun own => .inl (inside own)
    · exact .inr (.inl (.inr before))
    · exact .inr (.inr around)

theorem held_repeatLast (read : r.repeatLast min max greedy cs = .ok r') : r'.held ⊆ r.held := by
  unfold repeatLast at read
  split at read
  · cases read
  · next item items last =>
    split at read
    · cases read
    · cases read
      intro name member
      simp only [held, Level.held, Item.namesAll, last, List.flatMap_cons, List.mem_append] at member ⊢
      refine member.imp_left (.imp_right (.imp_left fun own => ?_))
      exact Expr.names_repeatOf _ _ _ _ own

theorem held_readRepeat (read : r.readRepeat min max cs = .ok r') : r'.held ⊆ r.held := by
  unfold readRepeat at read
  split at read <;> exact held_repeatLast read

theorem held_readCounted (read : r.readCounted cs = .ok r') : r'.held ⊆ r.held := by
  unfold readCounted at read
  split at read
  · cases read
  · obtain ⟨⟨min, max, after⟩, _, read⟩ := bind_eq_ok read
    exact held_readRepeat read

theorem names_of_literalItem {c : Char} {asByte : Bool} {item : Item}
    (read : literalItem flags c asByte = .ok item) : item.expr.names = [] := by
  unfold literalItem at read
  obtain ⟨c, _, read⟩ := bind_eq_ok read
  split at read
  · cases read
    rfl
  · split at read <;> cases read <;> rfl

theorem names_of_primitiveItem {primitive : Primitive} {item : Item}
    (read : primitiveItem flags primitive = .ok item) : item.expr.names = [] := by
  have plain {set : Except Error Unicode.CharSet}
      (read : (set.map fun s => (⟨.set s, 0, false⟩ : Item)) = .ok item) : item.expr.names = [] := by
    cases set with
    | error e => cases read
    | ok set =>
      cases read
      rfl
  cases primitive with
  | literal c asByte => exact names_of_literalItem read
  | look look =>
    cases read
    rfl
  | _ => exact plain read

theorem held_of_map {item : Except Error Item} (plain : ∀ i, item = .ok i → i.expr.names = [])
    (read : (item.map fun item => r.push item cs) = .ok r') : r'.held ⊆ r.held := by
  cases item with
  | error e => cases read
  | ok item =>
    cases read
    exact held_push (plain item rfl)

/-- A step adds no name but one that is written behind it. -/
theorem held_step {c : Char} (read : r.step c cs = .ok r') (member : name ∈ r'.held) :
    name ∈ r.held ∨ Written cs name := by
  unfold step at read
  split at read
  · exact held_openGroup read member
  · exact .inl (held_closeGroup read member)
  · cases read
    refine .inl ?_
    simp only [held, List.mem_append] at member ⊢
    exact member.imp_left fun inside => r.level.held_nextBranch inside
  · obtain ⟨⟨set, height, after⟩, _, read⟩ := bind_eq_ok read
    cases read
    exact .inl (held_push rfl member)
  · exact .inl (held_readRepeat read member)
  · exact .inl (held_readRepeat read member)
  · exact .inl (held_readRepeat read member)
  · exact .inl (held_readCounted read member)
  · obtain ⟨⟨primitive, after⟩, _, read⟩ := bind_eq_ok read
    exact .inl (held_of_map (fun _ => names_of_primitiveItem) read member)
  · exact .inl (held_of_map (fun _ => names_of_primitiveItem) read member)
  · cases read
    exact .inl (held_push rfl member)
  · cases read
    exact .inl (held_push rfl member)
  · exact .inl (held_of_map (fun _ => names_of_literalItem) read member)

theorem held_whole (read : r.whole = .ok final) (member : name ∈ final.held) :
    name ∈ r.held ∨ Written r.rest name := by
  -- A step takes at least one character, so the induction is on the length of what is left.
  generalize measure : r.rest.length = n
  induction n using Nat.strongRecOn generalizing r with
  | ind n ih =>
    have skips := (Flags.steady_skip r.flags r.rest).suffix
    cases begun : r.flags.skip r.rest with
    | nil =>
      rw [whole_of_skip_eq_nil begun] at read
      cases read
      exact .inl member
    | cons c rest =>
      rw [whole_of_skip_eq_cons begun] at read
      obtain ⟨r', stepped, read⟩ := bind_eq_ok read
      rw [begun] at skips
      have behind := (List.suffix_cons c rest).trans skips
      have shorter := skips.length_le
      have less := (step_suffix stepped).length_le
      rw [List.length_cons] at shorter
      rcases ih r'.rest.length (by omega) read rfl with before | later
      · exact (held_step stepped before).imp_right (·.of_suffix behind)
      · exact .inr (later.of_suffix ((step_suffix stepped).trans behind))

/-- The names of the groups of an expression are written in its text. -/
theorem read_written (read : Reader.read cs = .ok expr) (member : name ∈ expr.names) :
    Written cs name := by
  rw [read_eq] at read
  obtain ⟨final, gone, finished⟩ := bind_eq_ok read
  obtain ⟨_, _, rfl⟩ := finish_eq_ok_iff.1 finished
  have held : name ∈ final.held := List.mem_append_left _ (final.level.names_close member)
  rcases held_whole gone held with none | written
  · cases none
  · exact written

end Reader

theorem mem_foldl_set {found : List (Nat × Option String)} {names : Array (Option String)}
    (member : some name ∈
      (found.foldl (fun names (index, name) => names.set! index name) names).toList) :
    some name ∈ names.toList ∨ name ∈ found.filterMap (·.2) := by
  induction found generalizing names with
  | nil => exact .inl member
  | cons entry found ih =>
    obtain ⟨index, own⟩ := entry
    rcases ih member with set | later
    · simp only [Array.set!_eq_setIfInBounds, Array.toList_setIfInBounds] at set
      rcases List.mem_or_eq_of_mem_set set with before | rfl
      · exact .inl before
      · exact .inr (by simp)
    · exact .inr (List.filterMap_subset _ (List.subset_cons_self _ _) later)

/-- The list of groups has no names but those that have been found. -/
theorem mem_groupNames {found : List (Nat × Option String)}
    (member : some name ∈ (groupNames found).toList) : name ∈ found.filterMap (·.2) := by
  rcases mem_foldl_set member with none | named
  · simp at none
  · exact named

/-- The names in the list of groups are written in the text. -/
theorem written_of_mem_groups [Regex.Engine] {source : String} {limit : Nat} {regex : Regex}
    (read : ofString? source limit = .ok regex) (member : some name ∈ regex.groups.toList) :
    Written source.toList name := by
  obtain ⟨expr, told, _, rfl⟩ := ofString?_eq_ok_iff.1 read
  exact Reader.read_written told (mem_groupNames member)

end LogSift.Regex
