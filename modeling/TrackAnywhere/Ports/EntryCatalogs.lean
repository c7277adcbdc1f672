import TrackAnywhere.Ports.EverydayEntries

/-!
# The catalog under the everyday entries

The views take names and paths from the current catalog.  The catalog commands
add accounts, assets and categories, and rename accounts; no command changes the
type or the role of an account, the scale of an asset, or the place of a
category.  Closing and reopening an account change none of the columns that the
views read.
-/

namespace TrackAnywhere.Ports

open TrackAnywhere.Verified
open TrackAnywhere.Verified.Checked

/-! ## Catalog commands -/

/-- The rows that the catalog commands write. -/
inductive CatalogChange
  | accountCreated (account : AccountFact)
  | accountRenamed (accountId : UUID) (currentName : String)
  | assetCreated (asset : AssetFact)
  | categoryCreated (category : CategoryRecord) (categoryVersionId : UUID)

namespace EntryCatalog

/-- The keys of the tables, and the guards of a renaming. -/
def Allows (catalog : EntryCatalog) : CatalogChange → Prop
  | .accountCreated account => account.accountId ∉ catalog.accounts.map (·.accountId)
  | .accountRenamed accountId _ => ∃ account ∈ catalog.accounts,
      account.accountId = accountId ∧ account.systemRole = none
        ∧ account.accountType ≠ .system
  | .assetCreated asset => asset.assetCode ∉ catalog.assets.map (·.assetCode)
  | .categoryCreated category _ =>
      category.categoryId ∉ catalog.categories.map (·.categoryId)
        ∧ ∀ parentId ∈ category.parentCategoryId,
          parentId ∈ category.categoryId :: catalog.categories.map (·.categoryId)

def change (catalog : EntryCatalog) : CatalogChange → EntryCatalog
  | .accountCreated account => { catalog with accounts := catalog.accounts ++ [account] }
  | .accountRenamed accountId currentName =>
      { catalog with accounts := catalog.accounts.map fun account =>
          if account.accountId = accountId then { account with displayName := currentName }
          else account }
  | .assetCreated asset => { catalog with assets := catalog.assets ++ [asset] }
  | .categoryCreated category categoryVersionId =>
      { catalog with
        categories := catalog.categories ++ [category]
        categoryVersions := catalog.categoryVersions ++
          [{ categoryId := category.categoryId
             categoryVersionId := categoryVersionId
             name := category.currentName
             parentCategoryId := category.parentCategoryId }] }

end EntryCatalog

/-! ## What stays -/

/-- The account apart from its name. -/
def AccountFact.unnamed (account : AccountFact) : UUID × AccountType × Option String :=
  (account.accountId, account.accountType, account.systemRole)

def EntryCatalog.category? (catalog : EntryCatalog) (categoryId : UUID) :
    Option CategoryRecord :=
  catalog.categories.find? fun c => c.categoryId = categoryId

def EntryCatalog.version? (catalog : EntryCatalog) (identity : UUID × UUID) :
    Option CategoryVersionRecord :=
  catalog.categoryVersions.find? fun v =>
    v.categoryId = identity.1 ∧ v.categoryVersionId = identity.2

/-- The later catalog has the rows of the earlier one, up to account names. -/
structure EntryCatalog.Kept (catalog catalog' : EntryCatalog) : Prop where
  accounts : ∀ accountId, (accountFact? catalog.accounts accountId).isSome →
    (accountFact? catalog'.accounts accountId).map (·.unnamed)
      = (accountFact? catalog.accounts accountId).map (·.unnamed)
  assets : ∀ assetCode, (assetFact? catalog.assets assetCode).isSome →
    assetFact? catalog'.assets assetCode = assetFact? catalog.assets assetCode
  categories : ∀ categoryId, (catalog.category? categoryId).isSome →
    catalog'.category? categoryId = catalog.category? categoryId
  size : catalog.categories.length ≤ catalog'.categories.length
  versions : ∀ identity, (catalog.version? identity).isSome →
    catalog'.version? identity = catalog.version? identity

namespace EntryCatalog

variable {catalog catalog' catalog'' : EntryCatalog}

theorem Kept.refl (catalog : EntryCatalog) : Kept catalog catalog :=
  ⟨fun _ _ => rfl, fun _ _ => rfl, fun _ _ => rfl, le_rfl, fun _ _ => rfl⟩

theorem Kept.trans (h : Kept catalog catalog') (h' : Kept catalog' catalog'') :
    Kept catalog catalog'' where
  accounts := by
    intro accountId hFound
    have hSame := h.accounts accountId hFound
    refine (h'.accounts accountId ?_).trans hSame
    rwa [← Option.isSome_map, hSame, Option.isSome_map]
  assets := by
    intro assetCode hFound
    have hSame := h.assets assetCode hFound
    exact (h'.assets assetCode (hSame ▸ hFound)).trans hSame
  categories := by
    intro categoryId hFound
    have hSame := h.categories categoryId hFound
    exact (h'.categories categoryId (hSame ▸ hFound)).trans hSame
  size := h.size.trans h'.size
  versions := by
    intro identity hFound
    have hSame := h.versions identity hFound
    exact (h'.versions identity (hSame ▸ hFound)).trans hSame

/-- A row found before is found in a longer table. -/
private theorem find?_append_of_isSome {ρ : Type} {p : ρ → Bool} {rows more : List ρ}
    (h : (rows.find? p).isSome) : (rows ++ more).find? p = rows.find? p := by
  rw [List.find?_append]
  exact Option.or_of_isSome h

/-- A renaming leaves everything but the name. -/
private theorem accountFact?_renamed (accounts : List AccountFact) (accountId : UUID)
    (currentName : String) (other : UUID) :
    (accountFact? (accounts.map fun account => if account.accountId = accountId then
        { account with displayName := currentName } else account) other).map (·.unnamed)
      = (accountFact? accounts other).map (·.unnamed) := by
  unfold accountFact?
  induction accounts with
  | nil => rfl
  | cons account rest ih =>
      rw [List.map_cons, List.find?_cons, List.find?_cons]
      by_cases hRenamed : account.accountId = accountId
      · rw [if_pos hRenamed]
        by_cases hOther : account.accountId = other
        · simp [hOther, AccountFact.unnamed]
        · simpa [hOther] using ih
      · rw [if_neg hRenamed]
        by_cases hOther : account.accountId = other
        · simp [hOther]
        · simpa [hOther] using ih

/-- What a command leaves of the rows that were there. -/
theorem kept_change (catalog : EntryCatalog) (change : CatalogChange) :
    Kept catalog (catalog.change change) := by
  cases change with
  | accountCreated account =>
      exact { Kept.refl catalog with
        accounts := fun accountId h => congrArg _ (find?_append_of_isSome h) }
  | accountRenamed accountId currentName =>
      exact { Kept.refl catalog with
        accounts := fun other _ => accountFact?_renamed _ _ _ other }
  | assetCreated asset =>
      exact { Kept.refl catalog with
        assets := fun assetCode h => find?_append_of_isSome h }
  | categoryCreated category categoryVersionId =>
      exact { Kept.refl catalog with
        categories := fun categoryId h => find?_append_of_isSome h
        size := by simp [EntryCatalog.change]
        versions := fun identity h => find?_append_of_isSome h }

/-! ## Paths -/

/-- Parents are categories of the Book. -/
structure ParentsKnown (catalog : EntryCatalog) : Prop where
  categories : ∀ c ∈ catalog.categories, ∀ parentId ∈ c.parentCategoryId,
    parentId ∈ catalog.categories.map (·.categoryId)
  versions : ∀ v ∈ catalog.categoryVersions, ∀ parentId ∈ v.parentCategoryId,
    parentId ∈ catalog.categories.map (·.categoryId)

theorem category?_isSome {categoryId : UUID} :
    (catalog.category? categoryId).isSome
      ↔ categoryId ∈ catalog.categories.map (·.categoryId) := by
  unfold category?
  rw [List.find?_isSome]
  simp only [decide_eq_true_eq, List.mem_map]

/-- A category that is visited is no longer among those left to visit. -/
private theorem unseen_lt {ids seen : List UUID} {parentId : UUID} (hMem : parentId ∈ ids)
    (hNew : parentId ∉ seen) :
    (ids.filter fun id => id ∉ parentId :: seen).length
      < (ids.filter fun id => id ∉ seen).length := by
  have hSplit : ids.filter (fun id => id ∉ parentId :: seen)
      = (ids.filter fun id => id ∉ seen).filter fun id => id ≠ parentId := by
    rw [List.filter_filter]
    refine List.filter_congr fun id _ => ?_
    simp [not_or]
  rw [hSplit]
  refine List.length_filter_lt_length_iff_exists.2 ⟨parentId, ?_, by simp⟩
  exact List.mem_filter.2 ⟨hMem, decide_eq_true hNew⟩

/-- The names of the parents, in either catalog.  Both walks have a step for each
category that was not visited, and visit the same ones. -/
theorem Kept.parentNames (h : Kept catalog catalog') (hKnown : ParentsKnown catalog)
    (fuel : Nat) : ∀ (fuel' : Nat) (seen : List UUID) (parent : Option UUID),
      (∀ parentId ∈ parent, parentId ∈ catalog.categories.map (·.categoryId)) →
      ((catalog.categories.map (·.categoryId)).filter fun id => id ∉ seen).length < fuel →
      ((catalog.categories.map (·.categoryId)).filter fun id => id ∉ seen).length < fuel' →
      Ports.parentNames catalog'.categories fuel' seen parent
        = Ports.parentNames catalog.categories fuel seen parent := by
  induction fuel with
  | zero => exact fun _ _ _ _ hFuel _ => absurd hFuel (Nat.not_lt_zero _)
  | succ fuel ih =>
      intro fuel' seen parent hParent hFuel hFuel'
      obtain ⟨fuel', rfl⟩ := Nat.exists_eq_succ_of_ne_zero (Nat.ne_zero_of_lt hFuel')
      cases parent with
      | none => rw [Ports.parentNames, Ports.parentNames]
      | some parentId =>
          have hMem := hParent parentId rfl
          have hSame := h.categories parentId (category?_isSome.2 hMem)
          unfold category? at hSame
          rw [Ports.parentNames, Ports.parentNames, hSame]
          split_ifs with hSeen
          · rfl
          · cases hFound : catalog.categories.find? fun c => c.categoryId = parentId with
            | none => rfl
            | some found =>
                have hLess := unseen_lt hMem hSeen
                dsimp only
                rw [ih fuel' (parentId :: seen) found.parentCategoryId
                  (hKnown.categories found (List.mem_of_find?_eq_some hFound))
                  (by omega) (by omega)]

/-- The path of a version that was there. -/
theorem Kept.categoryPath (h : Kept catalog catalog') (hKnown : ParentsKnown catalog)
    {identity : UUID × UUID} (hVersion : (catalog.version? identity).isSome) :
    catalog'.categoryPath identity = catalog.categoryPath identity := by
  have hSame := h.versions identity hVersion
  obtain ⟨leaf, hLeaf⟩ := Option.isSome_iff_exists.1 hVersion
  rw [hLeaf] at hSame
  unfold version? at hSame hLeaf
  have hCount := List.length_filter_le (fun id => id ∉ [leaf.categoryId])
    (catalog.categories.map (·.categoryId))
  rw [List.length_map] at hCount
  have hSize := h.size
  unfold EntryCatalog.categoryPath
  rw [hSame, hLeaf]
  dsimp only
  rw [h.parentNames hKnown (catalog.categories.length + 1) (catalog'.categories.length + 1)
    [leaf.categoryId] leaf.parentCategoryId
    (hKnown.versions leaf (List.mem_of_find?_eq_some hLeaf)) (by omega) (by omega)]

/-- Parents stay categories of the Book. -/
theorem ParentsKnown.change (h : ParentsKnown catalog) {change : CatalogChange}
    (hAllows : catalog.Allows change) : ParentsKnown (catalog.change change) := by
  cases change with
  | accountCreated account => exact ⟨h.categories, h.versions⟩
  | accountRenamed accountId currentName => exact ⟨h.categories, h.versions⟩
  | assetCreated asset => exact ⟨h.categories, h.versions⟩
  | categoryCreated category categoryVersionId =>
      obtain ⟨-, hParent⟩ := hAllows
      have hNew : ∀ parentId ∈ category.parentCategoryId,
          parentId ∈ (catalog.categories ++ [category]).map (·.categoryId) := by
        intro parentId hMem
        simpa [or_comm] using hParent parentId hMem
      have hOld : ∀ parentId ∈ catalog.categories.map (·.categoryId),
          parentId ∈ (catalog.categories ++ [category]).map (·.categoryId) := by
        intro parentId hMem
        rw [List.map_append]
        exact List.mem_append_left _ hMem
      constructor
      · intro c hc parentId hMem
        rcases List.mem_append.1 hc with hc | hc
        · exact hOld parentId (h.categories c hc parentId hMem)
        · rw [List.mem_singleton.1 hc] at hMem
          exact hNew parentId hMem
      · intro v hv parentId hMem
        rcases List.mem_append.1 hv with hv | hv
        · exact hOld parentId (h.versions v hv parentId hMem)
        · rw [List.mem_singleton.1 hv] at hMem
          exact hNew parentId hMem

end EntryCatalog

end TrackAnywhere.Ports
