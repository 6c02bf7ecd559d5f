import MoteTrial.Disk
import MoteTrial.Proofs.Execution

/-! # What writing to files does to the store

A text that leads to a place without a folder still leads there once files have been written: `Leads` is
kept, and what was written at one place is what stands there, while other files stay as they are.
-/

namespace MoteTrial.Disk

open SimM

variable {d d' : Disk} {text : String} {place other : Path} {node : Node}

section Nodes

theorem lookup_map_replace (entries : List (Path × Node)) (place other : Path) (node : Node) :
    (entries.map fun entry => if entry.1 = place then (place, node) else entry).lookup other =
      if other = place then (entries.lookup place).map fun _ => node else entries.lookup other := by
  induction entries with
  | nil => split <;> rfl
  | cons entry rest ih =>
    obtain ⟨key, what⟩ := entry
    by_cases here : key = place
    · subst here
      by_cases sought : other = key
      · simp [sought]
      · simp [sought, List.lookup_cons, beq_false_of_ne sought, ih]
    · by_cases sought : other = place
      · subst sought
        simp [here, List.lookup_cons, beq_false_of_ne (Ne.symm here), ih]
      · simp [here, sought, List.lookup_cons, ih]

theorem lookup_put (d : Disk) (place other : Path) (node : Node) :
    (d.put place node).entries.lookup other =
      if other = place then some node else d.entries.lookup other := by
  unfold put
  cases present : d.entries.lookup place with
  | none =>
    simp only [Option.isSome_none, Bool.false_eq_true, ↓reduceIte, List.lookup_append]
    by_cases sought : other = place
    · simp [sought, present]
    · simp [sought, List.lookup_cons, beq_false_of_ne sought]
  | some before =>
    simp only [Option.isSome_some, ↓reduceIte, lookup_map_replace, present, Option.map_some]

theorem node?_put_self (inside : ¬ (place = [] ∨ place = ["/"])) :
    (d.put place node).node? place = some node := by
  rw [node?, if_neg inside, lookup_put, if_pos rfl]

theorem node?_put_of_ne (apart : other ≠ place) :
    (d.put place node).node? other = d.node? other := by
  rw [node?, node?, lookup_put, if_neg apart]

end Nodes

/-- The content of the file at a place. -/
def content? (d : Disk) (place : Path) : Option ByteArray :=
  match d.node? place with
  | some (.file content) => some content
  | _ => none

/-- The store once the file at a place has been changed, or made. -/
def updated (d : Disk) (place : Path) (f : ByteArray → ByteArray) : Disk :=
  { d with writes := d.writes + 1 }.put place (.file (f ((d.content? place).getD .empty)))

/-- A text leads to a place where no folder is. -/
structure Leads (d : Disk) (text : String) (place : Path) : Prop where
  clean : text.toList.contains (Char.ofNat 0) = false
  located : d.locate text = .ok place
  unfolded : d.node? place ≠ some .folder

@[simp] theorem writes_updated (f : ByteArray → ByteArray) :
    (d.updated place f).writes = d.writes + 1 := by
  unfold updated put
  split <;> rfl

@[simp] theorem full_updated (f : ByteArray → ByteArray) : (d.updated place f).full = d.full := by
  unfold updated put
  split <;> rfl

theorem inside_of_unfolded (unfolded : d.node? place ≠ some .folder) :
    ¬ (place = [] ∨ place = ["/"]) := by
  intro top
  exact unfolded (by rw [node?, if_pos top])

theorem content?_updated_self (unfolded : d.node? place ≠ some .folder)
    (f : ByteArray → ByteArray) :
    (d.updated place f).content? place = some (f ((d.content? place).getD .empty)) := by
  rw [content?, updated, node?_put_self (inside_of_unfolded unfolded)]

theorem node?_updated_of_ne (apart : other ≠ place) (f : ByteArray → ByteArray) :
    (d.updated place f).node? other = d.node? other := node?_put_of_ne apart

theorem content?_updated_of_ne (apart : other ≠ place) (f : ByteArray → ByteArray) :
    (d.updated place f).content? other = d.content? other := by
  rw [content?, node?_updated_of_ne apart, content?]

/-- Where a name leads from a folder. -/
def onward (start : Path) (name : String) : Path :=
  if Path.isHere name then start else if name = ".." then start.parent else start ++ [name]

theorem walk_cons_iff {start : Path} {name : String} {rest : Path} :
    d.walk start (name :: rest) = .ok place ↔
      d.node? start = some .folder ∧ ¬ Path.nameLimit < name.utf8ByteSize ∧
        d.walk (onward start name) rest = .ok place := by
  have next : d.walk (onward start name) rest =
      if Path.isHere name then d.walk start rest
      else if name = ".." then d.walk start.parent rest
      else d.walk (start ++ [name]) rest := by
    unfold onward
    split
    · rfl
    · split
      · rfl
      · rfl
  rw [walk, next]
  cases node : d.node? start with
  | none => simp
  | some what =>
    cases what with
    | file content => simp
    | folder =>
      by_cases long : Path.nameLimit < name.utf8ByteSize
      · simp [long]
      · simp [long]

/-- Folders stay where they are when a file is written. -/
theorem walk_updated (unfolded : d.node? place ≠ some .folder) (f : ByteArray → ByteArray)
    {start names : Path} (walked : d.walk start names = .ok other) :
    (d.updated place f).walk start names = .ok other := by
  induction names generalizing start with
  | nil => exact walked
  | cons name rest ih =>
    obtain ⟨folder, short, onwards⟩ := walk_cons_iff.mp walked
    have apart : start ≠ place := fun same => unfolded (same ▸ folder)
    exact walk_cons_iff.mpr ⟨(node?_updated_of_ne apart f).trans folder, short, ih onwards⟩

theorem Leads.updated {place' : Path} (leads : d.Leads text place)
    (unfolded : d.node? place' ≠ some .folder) (f : ByteArray → ByteArray) :
    (d.updated place' f).Leads text place where
  clean := leads.clean
  located := by
    have located := leads.located
    unfold locate at located ⊢
    split at located
    · cases located
    · split at located
      · cases located
      · rename_i some short
        rw [if_neg some, if_neg short]
        exact walk_updated unfolded f located
  unfolded := by
    by_cases same : place = place'
    · subst same
      rw [Disk.updated, node?_put_self (inside_of_unfolded unfolded)]
      nofun
    · rw [node?_updated_of_ne same]
      exact leads.unfolded

section Operations

theorem place_apply (leads : d.Leads text place) : Disk.place text d = .ok place d := by
  unfold Disk.place
  simp only [leads.clean, Bool.false_eq_true, ↓reduceIte, get_bind_apply, leads.located, refused]
  rfl

theorem of_place_apply (found : Disk.place text d = .ok place d') :
    d' = d ∧ text.toList.contains (Char.ofNat 0) = false ∧ d.locate text = .ok place := by
  unfold Disk.place at found
  by_cases clean : text.toList.contains (Char.ofNat 0) = true
  · rw [if_pos clean] at found
    cases found
  · rw [if_neg clean] at found
    obtain ⟨_, _, got, found⟩ := parts_of_bind found
    cases got
    cases located : d.locate text with
    | error fault =>
      rw [located] at found
      cases found
    | ok there =>
      rw [located] at found
      cases found
      exact ⟨rfl, Bool.eq_false_iff.mpr clean, rfl⟩

theorem takeSpace_apply (text : String) (d : Disk) :
    takeSpace text d =
      if d.full d.writes = true then .error (.disk .full text) { d with writes := d.writes + 1 }
      else .ok () { d with writes := d.writes + 1 } := by
  unfold takeSpace
  rw [get_bind_apply]
  cases d.full d.writes with
  | true => rfl
  | false => rfl

theorem update_apply (leads : d.Leads text place) (space : d.full d.writes = false)
    (f : ByteArray → ByteArray) : update text f d = .ok () (d.updated place f) := by
  have unfolded := leads.unfolded
  have taken : takeSpace text d = .ok () { d with writes := d.writes + 1 } := by
    rw [takeSpace_apply, if_neg (by rw [space]; decide)]
  unfold update
  rw [bind_ok (place_apply leads), bind_ok taken, get_bind_apply]
  unfold updated content?
  have same : ({ d with writes := d.writes + 1 } : Disk).node? place = d.node? place := rfl
  rw [same]
  cases node : d.node? place with
  | none => rfl
  | some what =>
    cases what with
    | file content => rfl
    | folder => exact absurd node unfolded

theorem leads_of_update {f : ByteArray → ByteArray} (wrote : update text f d = .ok () d') :
    ∃ place, d.Leads text place ∧ d' = d.updated place f := by
  unfold update at wrote
  obtain ⟨place, before, found, left⟩ := parts_of_bind wrote
  obtain ⟨rfl, clean, located⟩ := of_place_apply found
  obtain ⟨_, between, taken, last⟩ := parts_of_bind left
  rw [takeSpace_apply] at taken
  split at taken
  · cases taken
  cases taken
  rw [get_bind_apply] at last
  have same : ({ before with writes := before.writes + 1 } : Disk).node? place = before.node? place := rfl
  rw [same] at last
  refine ⟨place, ?_⟩
  cases node : before.node? place with
  | none =>
    rw [node] at last
    cases last
    exact ⟨⟨clean, located, by rw [node]; nofun⟩, by rw [updated, content?, node]; rfl⟩
  | some what =>
    cases what with
    | file content =>
      rw [node] at last
      cases last
      exact ⟨⟨clean, located, by rw [node]; nofun⟩, by rw [updated, content?, node]; rfl⟩
    | folder =>
      rw [node] at last
      cases last

theorem read_apply (leads : d.Leads text place) {content : ByteArray}
    (held : d.content? place = some content) : read text d = .ok content d := by
  unfold read
  rw [bind_ok (place_apply leads), get_bind_apply]
  unfold content? at held
  cases node : d.node? place with
  | none =>
    rw [node] at held
    cases held
  | some what =>
    cases what with
    | file found =>
      rw [node] at held
      cases held
      rfl
    | folder =>
      rw [node] at held
      cases held

end Operations

section Names

variable {name : String}

theorem splitSlash_plain {cs : List Char} (plain : '/' ∉ cs) : Path.splitSlash cs = (cs, []) := by
  induction cs with
  | nil => rfl
  | cons c rest ih =>
    have here : c ≠ '/' := fun same => plain (same ▸ List.mem_cons_self)
    have later : '/' ∉ rest := fun member => plain (List.mem_cons_of_mem _ member)
    simp only [Path.splitSlash, ih later, here, ↓reduceIte]

/-- A name without slashes is a path of its own. -/
theorem normal_plain (plain : '/' ∉ name.toList) (away : Path.isHere name = false) :
    Path.normal name = [name] := by
  have start : Path.start name = [] := by
    refine if_neg fun slash => plain ?_
    exact List.mem_of_mem_head? slash
  rw [Path.normal, start, Path.names, splitSlash_plain plain]
  simp only [List.map_cons, List.map_nil, String.ofList_toList, List.nil_append]
  exact List.filter_eq_self.mpr fun _ member => by rw [List.mem_singleton.mp member, away]; rfl

/-- The last name starts after the last slash. -/
theorem splitSlash_last (before : List Char) {cs : List Char} (plain : '/' ∉ cs) :
    (Path.splitSlash (before ++ '/' :: cs)).2.getLast? = some cs := by
  induction before with
  | nil => simp only [List.nil_append, Path.splitSlash, splitSlash_plain plain, ↓reduceIte,
      List.getLast?_singleton]
  | cons c rest ih =>
    by_cases slash : c = '/'
    · simp only [List.cons_append, Path.splitSlash, slash, ↓reduceIte, List.getLast?_cons, ih,
        Option.getD_some]
    · simp only [List.cons_append, Path.splitSlash, slash, ↓reduceIte, ih]

theorem intercalate_concat {folder : Path} (some : folder ≠ []) (name : String) :
    ∃ before, "/".intercalate (folder ++ [name]) = before ++ "/" ++ name := by
  induction folder with
  | nil => exact absurd rfl some
  | cons first rest ih =>
    cases rest with
    | nil => exact ⟨first, rfl⟩
    | cons second rest =>
      obtain ⟨before, shape⟩ := ih nofun
      refine ⟨first ++ "/" ++ before, ?_⟩
      rw [List.cons_append, List.cons_append, String.intercalate_cons_cons, ← List.cons_append, shape]
      simp only [String.append_assoc]

theorem render_concat (folder : Path) (plain : '/' ∉ name.toList) :
    Path.render (folder ++ [name]) = name ∨
      ∃ before, Path.render (folder ++ [name]) = before ++ "/" ++ name := by
  cases folder with
  | nil =>
    have plainer : name ≠ "/" := fun slash => plain (slash ▸ List.mem_singleton_self '/')
    refine .inl ?_
    rw [List.nil_append, Path.render]
    · rfl
    · nofun
    · exact fun _ shape => plainer (List.cons.inj shape).1
  | cons first rest =>
    refine .inr ?_
    by_cases root : first = "/"
    · subst root
      cases rest with
      | nil => exact ⟨"", rfl⟩
      | cons second rest =>
        obtain ⟨before, shape⟩ := intercalate_concat (List.cons_ne_nil second rest) name
        refine ⟨"/" ++ before, ?_⟩
        rw [List.cons_append, Path.render, shape]
        simp only [String.append_assoc]
    · obtain ⟨before, shape⟩ := intercalate_concat (List.cons_ne_nil first rest) name
      refine ⟨before, ?_⟩
      rw [← shape, List.cons_append, Path.render]
      · nofun
      · exact fun _ shape => root (List.cons.inj shape).1

/-- The text of a path ends with its last name. -/
theorem names_last (folder : Path) (plain : '/' ∉ name.toList) :
    (Path.names (Path.render (folder ++ [name]))).getLast? = some name := by
  have word : String.ofList name.toList = name := String.ofList_toList
  rcases render_concat folder plain with same | ⟨before, shape⟩
  · rw [same, Path.names, splitSlash_plain plain]
    simp only [List.map_cons, List.map_nil, List.getLast?_singleton, word]
  · have last := splitSlash_last before.toList plain
    have text : (before ++ "/" ++ name).toList = before.toList ++ '/' :: name.toList := by
      simp
    rw [shape, Path.names, text]
    simp only [List.map_cons, List.getLast?_cons, List.getLast?_map, last, Option.map_some,
      Option.getD_some, word]

/-- What a path leads to has the name at its end, if that leads further down. -/
theorem walk_last {start names : Path} (walked : d.walk start names = .ok place)
    (last : names.getLast? = some name) (away : Path.isHere name = false) (down : name ≠ "..") :
    place.getLast? = some name := by
  induction names generalizing start with
  | nil => cases last
  | cons first rest ih =>
    obtain ⟨-, -, onwards⟩ := walk_cons_iff.mp walked
    cases rest with
    | nil =>
      obtain rfl := Option.some.inj (List.getLast?_singleton.symm.trans last)
      cases onwards
      rw [onward, if_neg (by rw [away]; decide), if_neg down, List.getLast?_concat]
    | cons second rest => exact ih onwards ((List.getLast?_cons_cons).symm.trans last)

theorem Leads.last {folder : Path} (leads : d.Leads (Path.render (folder ++ [name])) place)
    (plain : '/' ∉ name.toList) (away : Path.isHere name = false) (down : name ≠ "..") :
    place.getLast? = some name := by
  have located := leads.located
  unfold locate at located
  split at located
  · cases located
  · split at located
    · cases located
    · exact walk_last located (names_last folder plain) away down

end Names

end MoteTrial.Disk
