import ScriptBundle.Proofs.Script.Marks
import ScriptBundle.Proofs.Script.Statements

/-! The shape of items. What the grammar reads as an import has a string that says where it comes
from, and specifiers that are names of one of three sorts, of which one at most is a name for all
exports. A list of exports has names and strings and nothing else, and a declaration that is exported
as the default has a name or none. Telling which declarations names stand for keeps the shape, so every
item of a module that was read has its shape. -/
namespace ScriptBundle.Script

namespace Node

/-- A name by itself. -/
inductive IsName : Node → Prop
  | mk (text : String) (mark : Mark) (place : Nat) : IsName (mk (.identifier text mark) place [])

/-- The name of a property is a word or a string. -/
inductive IsKey : Node → Prop
  | word (text : String) (place : Nat) : IsKey (mk (.word text) place [])
  | string (value : String) (raw : Option String) (place : Nat) :
    IsKey (mk (.string value raw) place [])

/-- What an import binds: a name for the default, a name for all, or a name for something that has
the same name or another one on the other side. -/
inductive IsSpecifier : Node → Prop
  | default (offset place : Nat) (name : String) (mark : Mark) :
    IsSpecifier (mk .importDefault offset [mk (.identifier name mark) place []])
  | whole (offset place : Nat) (name : String) (mark : Mark) :
    IsSpecifier (mk .importNamespace offset [mk (.identifier name mark) place []])
  | named (isType : Bool) (offset place : Nat) {imported : Node} (name : String) (mark : Mark)
    (known : imported = .absent ∨ IsKey imported) :
    IsSpecifier (mk (.importNamed isType) offset [imported, mk (.identifier name mark) place []])

/-- An import has a source and specifiers, of which one at most is a name for all. -/
inductive IsImport : Node → Prop
  | mk (isTypeOnly : Bool) (offset : Nat) (specifier : String) (raw : Option String) (place : Nat)
    (parts : List Node) (attributes : Node) (specifiers : List Node)
    (each : ∀ n ∈ specifiers, IsSpecifier n)
    (whole : (specifiers.map kind).count .importNamespace ≤ 1) :
    IsImport (.mk (.import isTypeOnly) offset
      (.mk (.string specifier raw) place parts :: attributes :: specifiers))

/-- What an export provides: a name that may have another one on the other side, or all at once. -/
inductive IsExported : Node → Prop
  | named (isType : Bool) (offset : Nat) {name other : Node}
    (inside : IsName name ∨ IsKey name) (known : other = .absent ∨ IsKey other) :
    IsExported (mk (.exportName isType) offset [name, other])
  | whole (offset : Nat) {name : Node} (key : IsKey name) :
    IsExported (mk .exportNamespace offset [name])

/-- A declaration that may be exported as the default. It is never an ambient one. -/
inductive IsDefault : Node → Prop
  | function (offset : Nat) {name : Node} (function : Node) (known : name = .absent ∨ IsName name) :
    IsDefault (mk (.functionDeclaration false) offset [name, function])
  | class (offset : Nat) {name : Node} (body : Node) (known : name = .absent ∨ IsName name) :
    IsDefault (mk (.classDeclaration false) offset [name, body])
  | interface (offset : Nat) (parts : List Node) : IsDefault (mk .interface offset parts)

/-- An item is an import, a list of exports, an export of a default or something else, with its
shape. -/
inductive IsItem : Node → Prop
  | ofImport {n : Node} (shape : IsImport n) : IsItem n
  | ofNames (isTypeOnly : Bool) (offset : Nat) (source attributes : Node) (specifiers : List Node)
    (each : ∀ n ∈ specifiers, IsExported n) :
    IsItem (mk (.exportNames isTypeOnly) offset (source :: attributes :: specifiers))
  | ofValue (offset : Nat) (value : Node) : IsItem (mk .exportDefault offset [value])
  | ofDefault (offset : Nat) {declaration : Node} (shape : IsDefault declaration) :
    IsItem (mk .exportDefaultDeclaration offset [declaration])
  | ofOther {n : Node} (shape : n.isOther) : IsItem n

theorem IsItem.isImport {n : Node} (item : IsItem n) (known : n.isImport) : IsImport n := by
  cases item with
  | ofImport shape => exact shape
  | ofNames | ofValue | ofDefault => cases known
  | ofOther shape =>
    obtain ⟨kind, offset, parts⟩ := n
    cases kind with
    | «import» => simp [isOther] at shape
    | _ => cases known

end Node

namespace P

open Node (IsKey IsName IsSpecifier IsImport IsExported IsDefault IsItem)

variable (parse : Reader)

theorem yields_boundName : Yields IsName boundName := by
  unfold boundName
  repeat' first
    | with_reducible refine .next fun _ => ?_
    | with_reducible exact .pure (.mk _ _ _)
    | split

theorem yields_word : Yields (fun n => ∃ text place, n = .mk (.word text) place []) word := by
  unfold word
  exact .next fun _ => .next fun _ => .pure ⟨_, _, rfl⟩

theorem yields_sourceString :
    Yields (fun n => ∃ value raw place, n = .mk (.string value raw) place []) sourceString := by
  unfold sourceString
  refine .next fun _ => .next fun _ => ?_
  split
  · exact .next fun _ => .pure ⟨_, _, _, rfl⟩
  · exact .unexpected _

theorem yields_exportedName : Yields IsKey exportedName := by
  intro s n given
  obtain ⟨l, s', read, known⟩ := exists_lexeme s
  have looked : token.run s = (.ok l.token, s') := run_bind read
  unfold exportedName at given
  rw [run_bind looked] at given
  split at given
  next value raw string =>
    obtain ⟨start, s'', found⟩ := literal?_again known string
    rw [run_bind found] at given
    cases given
    exact .string _ _ _
  next =>
    obtain ⟨text, place, rfl⟩ := yields_word _ _ given
    exact .word _ _
  next =>
    have none : Yields IsKey (unexpected "identifier or string") := .unexpected _
    exact none _ _ given

/-- What an entry of a list says: a name, and maybe another one with a property of its own. -/
def Entry (A : Node → Prop) (entry : NameEntry) : Prop :=
  IsKey entry.name ∧ (entry.alias_ = .absent ∨ A entry.alias_)

section entries

variable {A : Node → Prop} {readAlias : P Node} (gives : Yields A readAlias)
include gives

/-- A name with another one for it, if the word that announces one follows. -/
theorem yields_alias {name : Node} {isType : Bool} (known : IsKey name) : Yields (Entry A) (do
    let other ← if ← eatWord "as" then readAlias else pure .absent
    return ⟨name, other, isType⟩) := by
  refine .next fun hasAlias => ?_
  split
  · exact .bind gives fun other bound => .pure ⟨known, .inr bound⟩
  · exact .bind (Q := (· = .absent)) (.pure rfl) fun other none => .pure ⟨known, .inl none⟩

theorem yields_typeEntry {name : Node} (known : IsKey name) (cause : Cause) (isTypeList : Bool) :
    Yields (Entry A) (typeEntry name readAlias cause isTypeList) := by
  unfold typeEntry
  refine .bind yields_word fun second word => ?_
  have key : IsKey second := by
    obtain ⟨text, place, rfl⟩ := word
    exact .word text place
  split
  · exact .next fun _ => yields_alias gives key
  · refine .next fun named => ?_
    split
    · exact .next fun _ => .pure ⟨key, .inl rfl⟩
    · refine .bind gives fun third bound => .next fun _ => ?_
      split
      · exact .bind gives fun last bound => .next fun _ => .pure ⟨key, .inr bound⟩
      · exact .pure ⟨known, .inr bound⟩

theorem yields_nameEntry (cause : Cause) (isTypeList : Bool) :
    Yields (Entry A) (nameEntry readAlias cause isTypeList) := by
  unfold nameEntry
  refine .bind yields_exportedName fun name key => .next fun _ => ?_
  split
  · exact yields_typeEntry gives key _ _
  · exact yields_alias gives key

end entries

/-- A specifier that stands in a list. -/
def IsListed (n : Node) : Prop := IsSpecifier n ∧ n.kind ≠ .importNamespace

theorem yields_importSpecifier (isTypeList : Bool) :
    Yields IsListed (importSpecifier isTypeList) := by
  unfold importSpecifier
  refine .next fun start => .bind (yields_nameEntry yields_boundName _ _) ?_
  rintro ⟨name, other, isType⟩ ⟨key, none | ⟨text, mark, place⟩⟩
  · obtain rfl : other = .absent := none
    cases key with
    | word text place => exact .pure ⟨.named _ _ _ _ _ (.inl rfl), nofun⟩
    | string value raw place => exact .bind (.fail (Q := fun _ => False) _ _) fun _ => False.elim
  · cases key with
    | word text place => exact .pure ⟨.named _ _ _ _ _ (.inr (.word _ _)), nofun⟩
    | string value raw place => exact .pure ⟨.named _ _ _ _ _ (.inr (.string _ _ _)), nofun⟩

theorem yields_exportSpecifier (isTypeList : Bool) :
    Yields IsExported (exportSpecifier isTypeList) := by
  unfold exportSpecifier
  refine .next fun start => .bind (yields_nameEntry yields_exportedName _ _) ?_
  rintro ⟨name, other, isType⟩ ⟨key, known⟩
  refine .pure (.named isType start ?_ known)
  cases key with
  | word text place => exact .inl (.mk text .unknown place)
  | string value raw place => exact .inr (.string value raw place)

theorem yields_nameList {p : P Node} {Q : Node → Prop} (each : Yields Q p) :
    Yields (fun ns => ∀ n ∈ ns, Q n) (nameList p) := by
  unfold nameList
  refine .next fun bound => .bind (Q := fun found => ∀ n ∈ found, Q n) (.forIn (by simp) ?_) ?_
  · intro i found kept
    refine .next fun _ => .next fun _ => ?_
    split
    · exact .pure kept
    · refine .bind each fun n new => .next fun _ => ?_
      have more : ∀ n' ∈ found.push n, Q n' := by
        intro n' member
        obtain before | rfl := Array.mem_push.mp member
        · exact kept n' before
        · exact new
      split
      · exact .pure more
      · exact .next fun _ => .pure more
  · exact fun found kept => .next fun _ => .pure (by simpa using kept)

theorem yields_importBindings (isTypeOnly : Bool) : Yields (fun specifiers =>
    (∀ n ∈ specifiers, IsSpecifier n) ∧ (specifiers.map Node.kind).count .importNamespace ≤ 1)
    (importBindings isTypeOnly) := by
  unfold importBindings
  refine .next fun start => .next fun isWhole => ?_
  split
  · refine .next fun _ => .bind yields_boundName ?_
    rintro _ ⟨name, mark, place⟩
    exact .pure ⟨by simpa using .whole _ _ _ _, by simp [Node.kind]⟩
  · refine .next fun isList => ?_
    split
    · refine (yields_nameList (yields_importSpecifier isTypeOnly)).weaken fun ns each => ?_
      refine ⟨fun n member => (each n member).1, ?_⟩
      rw [List.count_eq_zero_of_not_mem]
      · exact Nat.zero_le 1
      · rintro whole
        obtain ⟨n, member, kind⟩ := List.mem_map.mp whole
        exact (each n member).2 kind
    · exact .pure ⟨by simp, by simp⟩

/-- What follows the names that an import binds. -/
theorem yields_importRest (first : List Node) (start : Nat) (isTypeOnly : Bool)
    (each : ∀ n ∈ first, IsSpecifier n ∧ n.kind ≠ .importNamespace) :
    Yields IsItem (do
      let bindings ← importBindings isTypeOnly
      let (source, attributes) ← sourceClause parse
      return .mk (.import isTypeOnly) start (source :: attributes :: first ++ bindings)) := by
  have clause : Yields (fun found => ∃ value raw place, found.1 = .mk (.string value raw) place [])
      (sourceClause parse) := by
    unfold sourceClause
    refine .next fun _ => .bind yields_sourceString fun source string => ?_
    exact .next fun _ => .next fun _ => .pure string
  refine .bind (yields_importBindings isTypeOnly) fun bindings ⟨others, whole⟩ => ?_
  refine .bind clause ?_
  rintro ⟨_, attributes⟩ ⟨value, raw, place, rfl⟩
  refine .pure (.ofImport (.mk _ _ _ _ _ _ _ (first ++ bindings) ?_ ?_))
  · exact List.forall_mem_append.mpr ⟨fun n member => (each n member).1, others⟩
  · have none : (first.map Node.kind).count .importNamespace = 0 := by
      refine List.count_eq_zero_of_not_mem fun listed => ?_
      obtain ⟨n, member, kind⟩ := List.mem_map.mp listed
      exact (each n member).2 kind
    rw [List.map_append, List.count_append, none, Nat.zero_add]
    exact whole

theorem yields_importItem : Yields IsItem (importItem parse) := by
  unfold importItem
  refine .next fun start => .next fun isCall => ?_
  split
  · exact .next fun _ => .next fun _ => .pure (.ofOther rfl)
  refine .next fun _ => .next fun isPlain => ?_
  split
  · refine .bind yields_sourceString ?_
    rintro _ ⟨value, raw, place, rfl⟩
    exact .next fun _ => .next fun _ =>
      .pure (.ofImport (.mk _ _ _ _ _ _ _ _ (by simp) (by simp)))
  have none (isTypeOnly : Bool) := yields_importRest parse [] start isTypeOnly (by simp)
  refine .next fun hasName => ?_
  split
  case isFalse => exact none false
  refine .bind yields_boundName fun name bound => .next fun isTypeOnly => ?_
  -- A name before the list is that of the default, unless an alias is made.
  have one (name : Node) (bound : IsName name) :
      Yields IsItem (do
        if ← isSign "=" then return ← aliasRest start name false isTypeOnly
        if !(← isWord "from") then expectSign ","
        let bindings ← importBindings isTypeOnly
        let (source, attributes) ← sourceClause parse
        return .mk (.import isTypeOnly) start
          (source :: attributes :: [.mk .importDefault name.offset [name]] ++ bindings)) := by
    refine .next fun isAlias => ?_
    split
    · exact (givesOther_aliasRest start name false isTypeOnly).weaken fun n => .ofOther
    · have rest := yields_importRest parse [.mk .importDefault name.offset [name]] start isTypeOnly
        (by
          obtain ⟨text, mark, place⟩ := bound
          simpa [Node.kind] using .default _ _ _ _)
      refine .next fun _ => ?_
      split
      · exact .next fun _ => rest
      · exact rest
  cases isTypeOnly with
  | true =>
    refine .next fun hasName => ?_
    cases hasName with
    | true => exact .bind yields_boundName one
    | false => exact none true
  | false => exact one name bound

theorem yields_namedExport (start : Nat) (isTypeOnly : Bool) :
    Yields IsItem (namedExport parse start isTypeOnly) := by
  unfold namedExport
  refine .next fun place => .next fun isWhole => ?_
  split
  · refine .next fun hasName => ?_
    split
    · exact .bind yields_exportedName fun name key => .next fun _ =>
        .pure (.ofNames _ _ _ _ _ (by simpa using .whole place key))
    · exact .next fun _ => .pure (.ofOther rfl)
  · refine .next fun _ => .bind (yields_nameList (yields_exportSpecifier isTypeOnly)) ?_
    refine fun names each => .next fun hasSource => ?_
    split
    · exact .next fun _ => .pure (.ofNames _ _ _ _ _ each)
    · exact .next fun _ => .next fun _ => .pure (.ofNames _ _ _ _ _ each)

theorem yields_functionFrom (isAsync isExpression needsName : Bool) :
    Yields (fun found => found.1 = .absent ∨ IsName found.1)
      (functionFrom parse isAsync isExpression needsName) := by
  have named (needsName : Bool) : Yields (fun n => n = .absent ∨ IsName n)
      (if needsName then boundName else do if ← isReference then boundName else return .absent) := by
    split
    · exact yields_boundName.weaken fun _ => .inr
    · refine .next fun _ => ?_
      split
      · exact yields_boundName.weaken fun _ => .inr
      · exact .pure (.inl rfl)
  unfold functionFrom
  refine .next fun _ => .next fun _ => ?_
  dsimp only
  split
  · exact .bind (.within (named needsName)) fun name known => .next fun _ => .pure known
  · exact .bind (named needsName) fun name known => .next fun _ => .pure known

theorem yields_classFrom (needsName isAbstract : Bool) :
    Yields (fun found => found.1 = .absent ∨ IsName found.1)
      (classFrom parse needsName isAbstract) := by
  have named : Yields (fun n => n = .absent ∨ IsName n) boundName :=
    yields_boundName.weaken fun _ => .inr
  have unnamed : Yields (fun n => n = .absent ∨ IsName n) (pure .absent) := .pure (.inl rfl)
  unfold classFrom
  refine .next fun _ => .next fun _ => ?_
  dsimp only
  -- The name is read in three ways, and what follows it is the same for all of them.
  split
  case' isFalse => split
  case' isTrue | isFalse.isTrue => refine .bind named fun name known => ?_
  case' isFalse.isFalse => refine .bind unnamed fun name known => ?_
  all_goals repeat' first
    | with_reducible exact .pure known
    | with_reducible refine .next fun _ => ?_
    | split

theorem yields_interfaceDeclaration (start : Nat) :
    Yields IsDefault (interfaceDeclaration parse start) := by
  unfold interfaceDeclaration
  repeat' first
    | with_reducible refine .next fun _ => ?_
    | with_reducible exact .pure (.interface _ _)
    | split

theorem yields_defaultExport (start : Nat) : Yields IsItem (defaultExport parse start) := by
  have ofInterface (place : Nat) : Yields IsItem (do
      return .mk .exportDefaultDeclaration start [← interfaceDeclaration parse place]) :=
    .bind (yields_interfaceDeclaration parse place) fun n shape => .pure (.ofDefault start shape)
  have ofClass (place : Nat) (isAbstract : Bool) : Yields IsItem (do
      let (name, body) ← classFrom parse false isAbstract
      return .mk .exportDefaultDeclaration start [.mk (.classDeclaration false) place [name, body]]) :=
    .bind (yields_classFrom parse false isAbstract) fun found known =>
      .pure (.ofDefault start (.class place found.2 known))
  have ofFunction (place : Nat) (isAsync : Bool) : Yields IsItem (do
      let (name, function) ← functionFrom parse isAsync false false
      return .mk .exportDefaultDeclaration start
        [.mk (.functionDeclaration false) place [name, function]]) :=
    .bind (yields_functionFrom parse isAsync false false) fun found known =>
      .pure (.ofDefault start (.function place found.2 known))
  unfold defaultExport
  repeat' first
    | with_reducible exact ofInterface _
    | with_reducible exact ofClass _ _
    | with_reducible exact ofFunction _ _
    | with_reducible exact .pure (.ofValue _ _)
    | with_reducible refine .next fun _ => ?_
    | split

theorem yields_exportItem : Yields IsItem (exportItem parse) := by
  unfold exportItem
  refine .next fun start => .next fun _ => .next fun _ =>
    .bind (givesOther?_typedExport parse start) fun found other => ?_
  split
  case h_1 => exact .pure (.ofOther other)
  case h_2 =>
    refine .next fun isTypeOnly => .next fun isDefault => ?_
    split
    · exact yields_defaultExport parse start
    · refine .next fun declaration => ?_
      split
      · exact .pure (.ofOther rfl)
      · exact yields_namedExport parse start isTypeOnly

theorem yields_moduleItem : Yields IsItem (moduleItem parse) := by
  unfold moduleItem
  refine .next fun isImport => ?_
  split
  · exact yields_importItem parse
  · refine .next fun isExport => ?_
    split
    · exact yields_exportItem parse
    · exact (givesOther_plainStatement parse true true).weaken fun n => .ofOther

theorem yields_items (fuel : Nat) :
    Yields (fun ns => ∀ n ∈ ns, IsItem n) (items (Goal.read fuel)) := by
  have item : Yields IsItem (Goal.read fuel .moduleItem) := by
    cases fuel with
    | zero => exact .failHere _
    | succ fuel => exact yields_moduleItem _
  unfold items
  refine .next fun bound => .bind (Q := fun found => ∀ n ∈ found, IsItem n)
    (.forIn (by simp) ?_) ?_
  · intro i found kept
    refine .next fun _ => ?_
    split
    · exact .pure kept
    · refine .bind item fun n new => .pure ?_
      intro n' member
      obtain before | rfl := Array.mem_push.mp member
      · exact kept n' before
      · exact new
  · exact fun found kept => .pure (by simpa using kept)

end P

open Node (IsKey IsName IsSpecifier IsImport IsExported IsDefault IsItem)

/-- The items of a module that was read have their shapes. -/
theorem Module.isItem_ofSource {source : String} {m : Module}
    (read : Module.ofSource source = .ok m) : ∀ n ∈ m.items, IsItem n := by
  unfold Module.ofSource at read
  dsimp only at read
  split at read
  · cases read
  next items after run =>
    split at read
    · cases read
    · cases read
      exact P.yields_items _ _ items (congrArg Prod.fst run)

namespace Node

open Scopes

variable (scopes : Scopes)

theorem isOther_mk {kind : Kind} {offset offset' : Nat} {parts parts' : List Node}
    (same : parts'.length = parts.length) :
    (mk kind offset' parts').isOther = (mk kind offset parts).isOther := by
  match parts, parts', same with
  | [], [], _ => cases kind <;> rfl
  | [_], [_], _ => cases kind <;> rfl
  | _ :: _ :: _, _ :: _ :: _, _ => cases kind <;> rfl

theorem length_resolveAll (ns : List Node) :
    Gives (·.length = ns.length) (resolveAll scopes ns) := by
  induction ns with
  | nil =>
    rw [resolveAll]
    exact .pure rfl
  | cons n rest ih =>
    rw [resolveAll]
    exact .bind (.any _) fun _ _ => .bind ih fun _ same => .pure (congrArg (· + 1) same)

theorem isOther_resolve (n : Node) : Gives (·.isOther = n.isOther) (resolve scopes n) := by
  unfold resolve
  split
  case h_22 kind offset parts _ _ _ _ _ _ _ _ _ _ _ _ _ _ _ _ _ _ _ _ _ =>
    exact .bind (length_resolveAll scopes parts) fun _ same => .pure (isOther_mk same)
  all_goals repeat' first
    | with_reducible exact .pure rfl
    | with_reducible refine .bind (.any _) fun _ _ => ?_

theorem resolveAll_nil : Gives (· = []) (resolveAll scopes []) := by
  rw [resolveAll]
  exact .pure rfl

theorem resolve_identifier (name : String) (mark : Mark) (place : Nat) :
    Gives (fun n => ∃ mark, n = .mk (.identifier name mark) place [])
      (resolve scopes (.mk (.identifier name mark) place [])) := by
  rw [resolve]
  refine .bind (resolveAll_nil scopes) ?_
  rintro _ rfl
  exact .pure ⟨_, rfl⟩

theorem resolve_name {n : Node} (name : IsName n) : Gives IsName (resolve scopes n) := by
  obtain ⟨text, mark, place⟩ := name
  exact (resolve_identifier scopes text mark place).weaken fun _ ⟨mark', made⟩ =>
    made ▸ .mk text mark' place

theorem resolve_key {n : Node} (known : n = .absent ∨ IsKey n) :
    Gives (· = n) (resolve scopes n) := by
  obtain rfl | ⟨text, place⟩ | ⟨value, raw, place⟩ := known
  all_goals
    unfold resolve
    rw [resolveAll]
    exact .pure rfl

theorem resolveAll_cons {P : Node → Prop} {Q : List Node → Prop} {n : Node} {ns : List Node}
    (first : Gives P (resolve scopes n)) (rest : Gives Q (resolveAll scopes ns)) :
    Gives (fun found => ∃ n' ns', found = n' :: ns' ∧ P n' ∧ Q ns')
      (resolveAll scopes (n :: ns)) := by
  rw [resolveAll]
  exact .map₂ first rest fun n' ns' holds others => ⟨n', ns', rfl, holds, others⟩

/-- What has its parts in the scopes around it keeps its kind. -/
theorem resolve_parts {Q : List Node → Prop} {kind : Kind} {offset : Nat} {parts : List Node}
    (plain : resolve scopes (.mk kind offset parts) = do
      return .mk kind offset (← resolveAll scopes parts))
    (each : Gives Q (resolveAll scopes parts)) :
    Gives (fun n => ∃ parts', n = .mk kind offset parts' ∧ Q parts')
      (resolve scopes (.mk kind offset parts)) := by
  rw [plain]
  exact .bind each fun parts' holds => .pure ⟨parts', rfl, holds⟩

theorem resolve_specifier {n : Node} (specifier : IsSpecifier n) :
    Gives (fun n' => IsSpecifier n' ∧ n'.kind = n.kind) (resolve scopes n) := by
  have bound (name : String) (mark : Mark) (place : Nat) :=
    resolveAll_cons scopes (resolve_identifier scopes name mark place) (resolveAll_nil scopes)
  cases specifier with
  | default offset place name mark =>
    refine (resolve_parts scopes (by unfold resolve; rfl) (bound name mark place)).weaken ?_
    rintro _ ⟨_, rfl, _, _, rfl, ⟨mark', rfl⟩, rfl⟩
    exact ⟨.default _ _ _ _, rfl⟩
  | whole offset place name mark =>
    refine (resolve_parts scopes (by unfold resolve; rfl) (bound name mark place)).weaken ?_
    rintro _ ⟨_, rfl, _, _, rfl, ⟨mark', rfl⟩, rfl⟩
    exact ⟨.whole _ _ _ _, rfl⟩
  | named isType offset place name mark known =>
    refine (resolve_parts scopes (by unfold resolve; rfl)
      (resolveAll_cons scopes (resolve_key scopes known) (bound name mark place))).weaken ?_
    rintro _ ⟨_, rfl, _, _, rfl, rfl, _, _, rfl, ⟨mark', rfl⟩, rfl⟩
    exact ⟨.named _ _ _ _ _ known, rfl⟩

theorem resolve_specifiers {ns : List Node} (each : ∀ n ∈ ns, IsSpecifier n) :
    Gives (fun ns' => (∀ n ∈ ns', IsSpecifier n) ∧ ns'.map kind = ns.map kind)
      (resolveAll scopes ns) := by
  induction ns with
  | nil =>
    refine (resolveAll_nil scopes).weaken ?_
    rintro _ rfl
    exact ⟨each, rfl⟩
  | cons n rest ih =>
    obtain ⟨first, others⟩ := List.forall_mem_cons.mp each
    refine (resolveAll_cons scopes (resolve_specifier scopes first) (ih others)).weaken ?_
    rintro _ ⟨n', rest', rfl, ⟨first', kind⟩, others', kinds⟩
    exact ⟨List.forall_mem_cons.mpr ⟨first', others'⟩, by rw [List.map_cons, kind, kinds]; rfl⟩

theorem resolve_import {n : Node} (shape : IsImport n) : Gives IsImport (resolve scopes n) := by
  cases shape with
  | mk isTypeOnly offset specifier raw place parts attributes specifiers each whole =>
    refine (resolve_parts scopes (by unfold resolve; rfl) (resolveAll_cons scopes
      (resolve_parts scopes (by unfold resolve; rfl) (.any _)) (resolveAll_cons scopes (.any _)
        (resolve_specifiers scopes each)))).weaken ?_
    rintro _ ⟨_, rfl, _, _, rfl, ⟨parts', rfl, -⟩, attributes', specifiers', rfl, -, each', kinds⟩
    exact .mk _ _ _ _ _ _ _ _ each' (kinds ▸ whole)

theorem resolve_exported {n : Node} (exported : IsExported n) :
    Gives IsExported (resolve scopes n) := by
  cases exported with
  | @named isType offset name other inside known =>
    have bound : Gives (fun name => IsName name ∨ IsKey name) (resolve scopes name) := by
      obtain name | key := inside
      · exact (resolve_name scopes name).weaken fun _ => .inl
      · exact (resolve_key scopes (.inr key)).weaken fun _ same => .inr (same ▸ key)
    refine (resolve_parts scopes (by unfold resolve; rfl) (resolveAll_cons scopes bound
      (resolveAll_cons scopes (resolve_key scopes known) (resolveAll_nil scopes)))).weaken ?_
    rintro _ ⟨_, rfl, name', _, rfl, inside', _, _, rfl, rfl, rfl⟩
    exact .named isType offset inside' known
  | whole offset key =>
    refine (resolve_parts scopes (by unfold resolve; rfl)
      (resolveAll_cons scopes (resolve_key scopes (.inr key)) (resolveAll_nil scopes))).weaken ?_
    rintro _ ⟨_, rfl, _, _, rfl, rfl, rfl⟩
    exact .whole offset key

theorem resolve_default {n : Node} (shape : IsDefault n) : Gives IsDefault (resolve scopes n) := by
  have named {name : Node} (known : name = .absent ∨ IsName name) :
      Gives (fun name' => name' = .absent ∨ IsName name') (resolve scopes name) := by
    obtain rfl | name := known
    · exact (resolve_key scopes (.inl rfl)).weaken fun _ => .inl
    · exact (resolve_name scopes name).weaken fun _ => .inr
  cases shape with
  | function offset function known =>
    refine (resolve_parts scopes (by unfold resolve; rfl) (resolveAll_cons scopes (named known)
      (resolveAll_cons scopes (.any _) (resolveAll_nil scopes)))).weaken ?_
    rintro _ ⟨_, rfl, name', _, rfl, known', function', _, rfl, -, rfl⟩
    exact .function offset function' known'
  | «class» offset body known =>
    refine (resolve_parts scopes (by unfold resolve; rfl) (resolveAll_cons scopes (named known)
      (resolveAll_cons scopes (.any _) (resolveAll_nil scopes)))).weaken ?_
    rintro _ ⟨_, rfl, name', _, rfl, known', body', _, rfl, -, rfl⟩
    exact .class offset body' known'
  | interface offset parts =>
    refine (resolve_parts scopes (by unfold resolve; rfl) (.any _)).weaken ?_
    rintro _ ⟨parts', rfl, -⟩
    exact .interface offset parts'

theorem resolveAll_forall {P : Node → Prop} (resolves : ∀ n, P n → Gives P (resolve scopes n))
    {ns : List Node} (each : ∀ n ∈ ns, P n) :
    Gives (fun ns' => ∀ n ∈ ns', P n) (resolveAll scopes ns) := by
  induction ns with
  | nil =>
    refine (resolveAll_nil scopes).weaken ?_
    rintro _ rfl
    exact each
  | cons n rest ih =>
    obtain ⟨first, others⟩ := List.forall_mem_cons.mp each
    refine (resolveAll_cons scopes (resolves n first) (ih others)).weaken ?_
    rintro _ ⟨n', rest', rfl, first', others'⟩
    exact List.forall_mem_cons.mpr ⟨first', others'⟩

theorem resolve_item {n : Node} (item : IsItem n) : Gives IsItem (resolve scopes n) := by
  cases item with
  | ofImport shape => exact (resolve_import scopes shape).weaken fun _ => .ofImport
  | ofNames isTypeOnly offset source attributes specifiers each =>
    refine (resolve_parts scopes (by unfold resolve; rfl) (resolveAll_cons scopes (.any _)
      (resolveAll_cons scopes (.any _)
        (resolveAll_forall scopes (fun _ => resolve_exported scopes) each)))).weaken ?_
    rintro _ ⟨_, rfl, source', _, rfl, -, attributes', specifiers', rfl, -, each'⟩
    exact .ofNames _ _ _ _ _ each'
  | ofValue offset value =>
    refine (resolve_parts scopes (by unfold resolve; rfl)
      (resolveAll_cons scopes (.any _) (resolveAll_nil scopes))).weaken ?_
    rintro _ ⟨_, rfl, value', _, rfl, -, rfl⟩
    exact .ofValue offset value'
  | ofDefault offset shape =>
    refine (resolve_parts scopes (by unfold resolve; rfl)
      (resolveAll_cons scopes (resolve_default scopes shape) (resolveAll_nil scopes))).weaken ?_
    rintro _ ⟨_, rfl, declaration', _, rfl, shape', rfl⟩
    exact .ofDefault offset shape'
  | ofOther shape =>
    exact (isOther_resolve scopes n).weaken fun _ same => .ofOther (same.trans shape)

end Node

theorem Module.isItem_resolved {m : Module} (each : ∀ n ∈ m.items, IsItem n) :
    ∀ n ∈ m.resolved.items, IsItem n := by
  have shapes : Scopes.Gives (fun ns => ∀ n ∈ ns, IsItem n) (do
      let scopes ← Scopes.outermost.enterBody m.items
      Node.resolveAll scopes m.items) :=
    .bind (.any _) fun scopes _ =>
      Node.resolveAll_forall scopes (fun _ => Node.resolve_item scopes) each
  exact shapes 0

end ScriptBundle.Script
