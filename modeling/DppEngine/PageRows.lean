import DppEngine.RenderedPages

/-! What of the product group's data reaches the public page.

The curated tables read some members by name, and the remainder has a row for each member that
none of them claims. A claimed member that its table does not read is on neither. -/
namespace PageRows

open MarkupLexing RenderedPages

section Completeness

variable {F : Type} {platform : Platform F} {p p' : Value F} {group key : String}
  {before after rest : List (String × Value F)} {value : Value F}

def withData (members rest : List (String × Value F)) : Value F :=
  .object (("productGroupData", .object members) :: rest)

def Ignores (platform : Platform F) (group key : String) : Prop :=
  ∀ dppId base notice before after rest value,
    productGroup (withData (before ++ after) rest) = group →
    renderPage platform dppId (withData (before ++ (key, value) :: after) rest) base notice =
      renderPage platform dppId (withData (before ++ after) rest) base notice

/-- The keys a product group's curated table claims and does not read. -/
def droppedKeys : String → List String
  | "electronics" => ["countryOfOrigin", "expectedLifetimeHours", "recycledContentPct"]
  | "steel" => ["steelGrade", "co2ePerTonneKg", "recycledContentPct"]
  | "construction" => ["recycledContentPct"]
  | "tyre" => ["countryOfOrigin", "rollingResistanceClass", "recycledContentPct"]
  | "toy" => ["minimumAgeMonths", "safetyWarnings"]
  | "aluminium" => ["alloyDesignation"]
  | "furniture" => ["recycledContentPct", "disassemblyInstructions", "expectedLifetimeYears"]
  | "detergent" => ["biodegradabilityPct", "hazardStatements"]
  | _ => []

theorem get_skip (before after : List (String × Value F)) {k : String} (h : k ≠ key) :
    (Value.object (before ++ (key, value) :: after)).get k =
      (Value.object (before ++ after)).get k := by
  simp only [Value.get, List.find?_append, List.find?_cons]
  simp [Ne.symm h]

theorem withData_get {members members' : List (String × Value F)} {k : String}
    (h : k ≠ "productGroupData") :
    (withData members rest).get k = (withData members' rest).get k := by
  simp [withData, Value.get, Ne.symm h]

@[simp] theorem withData_data {members : List (String × Value F)} :
    (withData members rest).get "productGroupData" = some (.object members) := rfl

/-- Passports with one envelope have one page when the product group's part is the same. -/
theorem renderPage_eq_iff {dppId base : String} {notice : SnapshotNotice}
    (henvelope : ∀ k ≠ "productGroupData", p.get k = p'.get k)
    (hidentifier : productIdentifier p = productIdentifier p') :
    renderPage platform dppId p base notice = renderPage platform dppId p' base notice ↔
      buildProductGroupSection platform p = buildProductGroupSection platform p' := by
  have hcarrier : carrierUri p = carrierUri p' := by
    rw [carrierUri, carrierUri, henvelope _ (by decide)]
  unfold renderPage
  rw [hcarrier, hidentifier, henvelope "productName" (by decide),
    henvelope "manufacturer" (by decide), henvelope "status" (by decide),
    henvelope "batchId" (by decide)]
  exact format_cancel [_, _, _, _, _, _, _, _, _, _, _, _, _] (Nat.le_of_ble_eq_true rfl)

theorem remaining_skip {keys : List String} (h : key ∈ keys) :
    remaining keys (withData (before ++ (key, value) :: after) rest) =
      remaining keys (withData (before ++ after) rest) := by
  simp [remaining, remainderMembers, Value.asObject, h]

theorem Table.build_congr {table : Table F} {sd sd' : Value F}
    (h : ∀ row ∈ table.rows, row.2 sd = row.2 sd') : table.build sd = table.build sd' := by
  have hrows : table.rows.map (fun row => tableRow row.1 (row.2 sd)) =
      table.rows.map fun row => tableRow row.1 (row.2 sd') :=
    List.map_congr_left fun row hrow => congrArg (tableRow row.1) (h row hrow)
  rw [Table.build, Table.build, hrows]

theorem curated_ignores (h : key ∈ droppedKeys group) :
    curatedSection platform group (withData (before ++ (key, value) :: after) rest) =
      curatedSection platform group (withData (before ++ after) rest) := by
  have hskip : ∀ k ≠ key, (Value.object (before ++ (key, value) :: after)).get k =
      (Value.object (before ++ after)).get k := fun k => get_skip _ _
  unfold droppedKeys at h
  split at h
  case h_9 => cases h
  all_goals
    refine Table.build_congr ?_
    simp only [List.mem_cons, List.not_mem_nil, or_false] at h
  · rcases h with rfl | rfl | rfl <;>
      simp [electronicsTable, strField, f64Field, u64Field, overallScore, hskip]
  · rcases h with rfl | rfl | rfl <;> simp [steelTable, strField, f64Field, hskip]
  · rcases h with rfl
    simp [constructionTable, strField, f64Field, boolField, hskip]
  · rcases h with rfl | rfl | rfl <;> simp [tyreTable, strField, f64Field, hskip]
  · rcases h with rfl | rfl <;> simp [toyTable, strField, boolField, hskip]
  · rcases h with rfl
    simp [aluminiumTable, strField, f64Field, hskip]
  · rcases h with rfl | rfl | rfl <;> simp [furnitureTable, strField, f64Field, hskip]
  · rcases h with rfl | rfl <;>
      simp [detergentTable, strField, boolField, arrayLenField, hskip]

theorem mem_droppedKeys (h : key ∈ droppedKeys group) : key ∈ renderedKeys group := by
  unfold droppedKeys at h
  split at h
  case h_9 => cases h
  all_goals
    simp only [List.mem_cons, List.not_mem_nil, or_false] at h
    simp only [renderedKeys, List.mem_cons, List.not_mem_nil, or_false]
  all_goals
    rcases h with rfl | rfl | rfl
    all_goals simp

end Completeness

section Reaching

variable {F : Type} {platform : Platform F} {group key fallback : String} {sd sd' : Value F}

/-- What is read of one is read of the other, for every reading that an empty object fails. -/
structure ReadAlike (sd sd' : Value F) : Prop where
  read : ∀ {α : Type} (k : String) (f : Value F → Option α), f (.object []) = none →
    (sd.get k).bind f = (sd'.get k).bind f

theorem ReadAlike.str (h : ReadAlike sd sd') :
    strField key fallback sd = strField key fallback sd' := by
  rw [strField, strField, h.read key Value.asStr rfl]

theorem ReadAlike.f64 {fmt : F → String} (h : ReadAlike sd sd') (platform : Platform F) :
    f64Field platform key fallback fmt sd = f64Field platform key fallback fmt sd' := by
  rw [f64Field, f64Field, h.read key (Value.asF64 platform) rfl]

theorem ReadAlike.u64 {fmt : ℕ → String} (h : ReadAlike sd sd') :
    u64Field key fallback fmt sd = u64Field key fallback fmt sd' := by
  rw [u64Field, u64Field, h.read key Value.asU64 rfl]

theorem ReadAlike.bool {yes no : String} (h : ReadAlike sd sd') :
    boolField key fallback yes no sd = boolField key fallback yes no sd' := by
  rw [boolField, boolField, h.read key Value.asBool rfl]

theorem ReadAlike.array (h : ReadAlike sd sd') :
    arrayLenField key fallback sd = arrayLenField key fallback sd' := by
  rw [arrayLenField, arrayLenField, h.read key Value.asArray rfl]

theorem ReadAlike.overall {fmt : F → String} (h : ReadAlike sd sd') (platform : Platform F) :
    overallScore platform key fallback fmt sd = overallScore platform key fallback fmt sd' := by
  rw [overallScore, overallScore, h.read key (Value.get "overall") rfl]

theorem ReadAlike.curated (h : ReadAlike sd sd') (platform : Platform F) (group : String) :
    curatedSection platform group (.object [("productGroupData", sd)]) =
      curatedSection platform group (.object [("productGroupData", sd')]) := by
  have htextile : buildTextile platform sd = buildTextile platform sd' := by
    rw [buildTextile, buildTextile, h.str, h.str, h.str, h.f64, fibresOf, fibresOf,
      h.read "fibreComposition" Value.asArray rfl]
  unfold curatedSection
  split
  · refine Table.build_congr ?_
    simp [batteryTable, h.str, h.f64 platform, h.u64]
  · exact htextile
  · exact htextile
  · refine Table.build_congr ?_
    simp [electronicsTable, h.str, h.f64 platform, h.u64,
      h.overall platform]
  · refine Table.build_congr ?_
    simp [steelTable, h.str, h.f64 platform]
  · refine Table.build_congr ?_
    simp [constructionTable, h.str, h.f64 platform, h.bool]
  · refine Table.build_congr ?_
    simp [tyreTable, h.str, h.f64 platform]
  · refine Table.build_congr ?_
    simp [toyTable, h.str, h.bool]
  · refine Table.build_congr ?_
    simp [aluminiumTable, h.str, h.f64 platform]
  · refine Table.build_congr ?_
    simp [furnitureTable, h.str, h.f64 platform]
  · refine Table.build_congr ?_
    simp [detergentTable, h.str, h.bool, h.array]
  · rfl

theorem ReadAlike.identifier (h : ReadAlike sd sd') :
    productIdentifier (.object [("productGroupData", sd)]) =
      productIdentifier (.object [("productGroupData", sd')]) := by
  have hstated := h.read "productIdentifier"
    (fun id => ["gtin", "url", "did"].findSome? fun key => id.get key) rfl
  have hgtin := h.read "gtin" Value.asStr rfl
  have hread : ∀ sd : Value F, productIdentifier (.object [("productGroupData", sd)]) =
      (((sd.get "productIdentifier").bind fun id =>
        ["gtin", "url", "did"].findSome? fun key => id.get key).or (sd.get "gtin")).bind
          Value.asStr := fun _ => rfl
  rw [hread, hread, hstated]
  cases (sd'.get "productIdentifier").bind fun id =>
      ["gtin", "url", "did"].findSome? fun key => id.get key with
  | none => exact hgtin
  | some v => rfl

def onlyGroup (group : String) : List (String × Value F) := [("productGroup", .string group)]

theorem blank_alike (hkey : key ≠ "productGroup") :
    ReadAlike (F := F) (.object (onlyGroup group ++ [(key, .object [])]))
      (.object (onlyGroup group)) := by
  constructor
  intro α k f hf
  by_cases hk : k = key
  · subst hk
    simp [Value.get, onlyGroup, hf, Ne.symm hkey]
  · rw [get_skip _ _ hk, List.append_nil]

theorem productGroup_onlyGroup (members : List (String × Value F)) :
    productGroup (withData (onlyGroup group ++ members) []) = group := by
  simp [productGroup, withData, Value.get, onlyGroup, Value.asStr]

theorem remaining_onlyGroup {keys : List String} :
    remaining keys (withData (F := F) (onlyGroup group) []) = [] := by
  simp [remaining, remainderMembers, Value.asObject, onlyGroup, skip]

/-- A member that no curated table claims is on the page, in a row of its own. -/
theorem reaches_of_unclaimed (hkey : key ≠ "productGroup")
    (hunclaimed : key ∉ renderedKeys group) :
    ¬Ignores platform group key := by
  intro h
  have hpages := h "" "" .live (onlyGroup group) [] [] (.object [])
    (by rw [List.append_nil]; exact productGroup_onlyGroup [])
  have halike : ReadAlike (F := F) (.object (onlyGroup group ++ [(key, .object [])]))
      (.object (onlyGroup group)) := blank_alike hkey
  rw [List.append_nil, renderPage_eq_iff (fun k => withData_get) halike.identifier] at hpages
  have hgroup : productGroup (withData (F := F) (onlyGroup group) []) = group :=
    productGroup_onlyGroup []
  have hcurated := halike.curated platform group
  have hremaining : remaining (renderedKeys group)
      (withData (onlyGroup group ++ [(key, Value.object (F := F) [])]) []) =
        [(key, .object [])] := by
    simp [remaining, remainderMembers, Value.asObject, onlyGroup, skip, hkey, hunclaimed,
      Value.isNull]
  rw [buildProductGroupSection, buildProductGroupSection, productGroup_onlyGroup _, hgroup,
    buildRemainderSection_eq, buildRemainderSection_eq, hremaining, remaining_onlyGroup] at hpages
  rw [show curatedSection platform group (withData (onlyGroup group ++ [(key, .object [])]) []) =
    curatedSection platform group (withData (onlyGroup group) []) from hcurated,
    String.append_right_inj] at hpages
  have hlength := congrArg String.length hpages
  simp [remainderPieces, format] at hlength

end Reaching

section Claimed

variable {F : Type} {platform : Platform F} {group key : String} {sd sd' : Value F}

theorem mem_renderedKeys (h : key ∈ renderedKeys group) :
    key ≠ "productGroup" ∧ key ≠ "productIdentifier" ∧ key ≠ "gtin" := by
  unfold renderedKeys at h
  split at h
  all_goals simp only [List.mem_cons, List.not_mem_nil, or_false] at h
  all_goals
    rcases h with rfl | rfl | rfl | rfl | rfl | rfl | rfl
    all_goals simp

theorem identifier_skip {before after rest : List (String × Value F)} {value : Value F}
    (hstated : key ≠ "productIdentifier") (hgtin : key ≠ "gtin") :
    productIdentifier (withData (before ++ (key, value) :: after) rest) =
      productIdentifier (withData (before ++ after) rest) := by
  have hread : ∀ members : List (String × Value F), productIdentifier (withData members rest) =
      ((((Value.object members).get "productIdentifier").bind fun id =>
        ["gtin", "url", "did"].findSome? fun key => id.get key).or
          ((Value.object members).get "gtin")).bind Value.asStr := fun _ => rfl
  rw [hread, hread, get_skip _ _ hstated.symm, get_skip _ _ hgtin.symm]

theorem productGroup_skip {before after rest : List (String × Value F)} {value : Value F}
    (h : key ≠ "productGroup") :
    productGroup (withData (before ++ (key, value) :: after) rest) =
      productGroup (withData (before ++ after) rest) := by
  simp only [productGroup, withData_data, Option.bind_some, get_skip _ _ h.symm]

/-- The product group chooses the section: an empty text gives none, and a toy's has a table. -/
theorem reaches_of_group : ¬Ignores platform group "productGroup" := by
  intro h
  have hcurated (chosen : String) : curatedSection platform chosen
      (withData (("productGroup", .string chosen) :: onlyGroup group) []) =
        curatedSection platform group (withData (onlyGroup group) []) := by
    have hpages := h "" "" .live [] (onlyGroup group) [] (.string chosen)
      (productGroup_onlyGroup [])
    have hidentifier : productIdentifier (withData (F := F)
        (("productGroup", .string chosen) :: onlyGroup group) []) =
          productIdentifier (withData (onlyGroup group) []) := rfl
    have hchosen : productGroup (withData (F := F)
        (("productGroup", .string chosen) :: onlyGroup group) []) = chosen := by
      simp [productGroup, withData, Value.get, Value.asStr]
    have hgroup : productGroup (withData (F := F) (onlyGroup group) []) = group :=
      productGroup_onlyGroup []
    have hremaining : remaining (renderedKeys chosen)
        (withData (F := F) (("productGroup", .string chosen) :: onlyGroup group) []) = [] := by
      simp [remaining, remainderMembers, Value.asObject, onlyGroup, skip]
    rw [List.nil_append, List.nil_append,
      renderPage_eq_iff (fun k => withData_get) hidentifier, buildProductGroupSection,
        buildProductGroupSection, hchosen, hgroup,
      buildRemainderSection_eq, buildRemainderSection_eq, hremaining, remaining_onlyGroup,
      String.append_left_inj, String.append_left_inj] at hpages
    exact hpages
  have hlength := congrArg String.length ((hcurated "toy").trans (hcurated "").symm)
  simp [curatedSection, buildToySection, ofData, Table.build, format] at hlength

/-- A member that the curated table claims is on the page when the table is another with it. -/
theorem reaches_of_curated (members : List (String × Value F)) (value : Value F)
    (hclaimed : key ∈ renderedKeys group)
    (h : curatedSection platform group
        (withData (onlyGroup group ++ members ++ [(key, value)]) []) ≠
      curatedSection platform group (withData (onlyGroup group ++ members ++ []) [])) :
    ¬Ignores platform group key := by
  obtain ⟨hgroup, hidentifier, hgtin⟩ := mem_renderedKeys hclaimed
  intro hignores
  have hstated : productGroup (withData (onlyGroup group ++ members ++ []) []) = group := by
    rw [List.append_nil]
    exact productGroup_onlyGroup _
  have hpages := hignores "" "" .live (onlyGroup group ++ members) [] [] value hstated
  rw [renderPage_eq_iff (fun k => withData_get) (identifier_skip hidentifier hgtin),
    buildProductGroupSection, buildProductGroupSection, productGroup_skip hgroup, hstated,
    buildRemainderSection_eq, buildRemainderSection_eq, remaining_skip hclaimed,
    String.append_left_inj, String.append_left_inj] at hpages
  exact h hpages

theorem Table.build_cancel (table : Table F) (xs ys : List (String × (Value F → String)))
    {row : String × (Value F → String)} (hrows : table.rows = xs ++ row :: ys)
    (hothers : ∀ r ∈ xs ++ ys, r.2 sd = r.2 sd') (h : table.build sd = table.build sd') :
    row.2 sd = row.2 sd' := by
  have hmap : ∀ rs ⊆ xs ++ ys, rs.map (fun r => tableRow r.1 (r.2 sd)) =
      rs.map fun r => tableRow r.1 (r.2 sd') := fun rs hrs =>
    List.map_congr_left fun r hr => congrArg (tableRow r.1) (hothers r (hrs hr))
  rw [Table.build, Table.build] at h
  have hjoin := (format_cancel [table.title, table.ariaLabel]
    (Nat.le_of_ble_eq_true rfl)).mp h
  rw [hrows, List.map_append, List.map_append, List.map_cons, List.map_cons, String.join_append,
    String.join_append, String.join_cons, String.join_cons,
    hmap xs (List.subset_append_left xs ys), hmap ys (List.subset_append_right xs ys),
    String.append_right_inj, String.append_left_inj] at hjoin
  exact (format_cancel [row.1] (Nat.le_of_ble_eq_true rfl)).mp hjoin

theorem reaches_of_row {table : Table F} (xs ys : List (String × (Value F → String)))
    {label : String} {cell : Value F → String} (value : Value F)
    (hclaimed : key ∈ renderedKeys group)
    (hcurated : curatedSection platform group = ofData table.build)
    (hrows : table.rows = xs ++ (label, cell) :: ys)
    (hothers : ∀ sd sd' : Value F, (∀ k ≠ key, sd.get k = sd'.get k) →
      ∀ r ∈ xs ++ ys, r.2 sd = r.2 sd')
    (hrow : key ≠ "productGroup" →
      cell (.object [("productGroup", .string group), (key, value)]) ≠
        cell (.object [("productGroup", .string group)])) : ¬Ignores platform group key := by
  refine reaches_of_curated [] value hclaimed ?_
  rw [hcurated]
  intro h
  exact hrow (mem_renderedKeys hclaimed).1 (Table.build_cancel table xs ys hrows
    (hothers _ _ fun k hk => get_skip (onlyGroup group) [] hk) h)

theorem append_ne {a : String} {cs ds : List Char}
    (h : cs.getLast?.isSome ∧ cs.getLast? ≠ ds.getLast?) :
    a ++ String.ofList cs ≠ String.ofList ds := by
  intro hab
  have hlast := congrArg (fun s => s.toList.getLast?) hab
  obtain ⟨c, hc⟩ := Option.isSome_iff_exists.mp h.1
  simp only [String.toList_append, String.toList_ofList, List.getLast?_append, hc,
    Option.some_or] at hlast
  exact h.2 (hc.trans hlast)

theorem strField_reaches (hkey : key ≠ "productGroup") :
    strField key "-" (.object (F := F) [("productGroup", .string group), (key, .string "x")]) ≠
      strField key "-" (.object (F := F) [("productGroup", .string group)]) := by
  have hesc : esc "x" ≠ esc "-" := by decide +kernel
  simpa [strField, Value.get, Value.asStr, Ne.symm hkey] using hesc

theorem f64Field_reaches {fallback : String} {fmt : F → String} (hkey : key ≠ "productGroup")
    (hfmt : fmt (platform.ofInt 0) ≠ fallback) :
    f64Field platform key fallback fmt
        (.object [("productGroup", .string group), (key, .int 0)]) ≠
      f64Field platform key fallback fmt (.object [("productGroup", .string group)]) := by
  simpa [f64Field, Value.get, Value.asF64, Ne.symm hkey] using hfmt

theorem boolField_reaches {fallback yes no : String} (hkey : key ≠ "productGroup")
    (hyes : yes ≠ fallback) :
    boolField key fallback yes no
        (.object (F := F) [("productGroup", .string group), (key, .bool true)]) ≠
      boolField key fallback yes no (.object (F := F) [("productGroup", .string group)]) := by
  simpa [boolField, Value.get, Value.asBool, Ne.symm hkey] using hyes

theorem battery_reaches (hclaimed : key ∈ renderedKeys "battery") :
    ¬Ignores platform "battery" key := by
  have hkeys := hclaimed
  simp only [renderedKeys, List.mem_cons, List.not_mem_nil, or_false] at hkeys
  rcases hkeys with rfl | rfl | rfl | rfl | rfl | rfl | rfl
  · refine reaches_of_row [] [_, _, _, _, _, _] (.string "x") hclaimed rfl rfl ?_ strField_reaches
    intro sd sd' hskip
    simp [f64Field, u64Field, hskip]
  · refine reaches_of_row [_] [_, _, _, _, _] (.int 0) hclaimed rfl rfl ?_
      fun h => f64Field_reaches h ?_
    · intro sd sd' hskip
      simp [strField, f64Field, u64Field, hskip]
    · exact append_ne (by decide)
  · refine reaches_of_row [_, _] [_, _, _, _] (.int 0) hclaimed rfl rfl ?_
      fun h => f64Field_reaches h ?_
    · intro sd sd' hskip
      simp [strField, f64Field, u64Field, hskip]
    · exact append_ne (by decide)
  · refine reaches_of_row [_, _, _] [_, _, _] (.int 0) hclaimed rfl rfl ?_ fun h => ?_
    · intro sd sd' hskip
      simp [strField, f64Field, hskip]
    · rw [Ne, String.append_left_inj]
      exact (by decide +kernel : toString 0 ≠ "-")
  · refine reaches_of_row [_, _, _, _] [_, _] (.int 0) hclaimed rfl rfl ?_
      fun h => f64Field_reaches h ?_
    · intro sd sd' hskip
      simp [strField, f64Field, u64Field, hskip]
    · exact append_ne (by decide)
  · refine reaches_of_row [_, _, _, _, _] [_] (.int 0) hclaimed rfl rfl ?_
      fun h => f64Field_reaches h ?_
    · intro sd sd' hskip
      simp [strField, f64Field, u64Field, hskip]
    · exact append_ne (by decide)
  · refine reaches_of_row [_, _, _, _, _, _] [] (.int 0) hclaimed rfl rfl ?_
      fun h => f64Field_reaches h ?_
    · intro sd sd' hskip
      simp [strField, f64Field, u64Field, hskip]
    · exact append_ne (by decide)

theorem electronics_reaches (hclaimed : key ∈ renderedKeys "electronics")
    (hkept : key ∉ droppedKeys "electronics") :
    ¬Ignores platform "electronics" key := by
  have hkeys := hclaimed
  simp only [renderedKeys, List.mem_cons, List.not_mem_nil, or_false] at hkeys
  rcases hkeys with rfl | rfl | rfl | rfl
  · exact absurd (by simp [droppedKeys]) hkept
  · refine reaches_of_row [_] [_, _, _] (.string "x") hclaimed rfl rfl ?_ strField_reaches
    intro sd sd' hskip
    simp [strField, f64Field, overallScore, u64Field, hskip]
  · exact absurd (by simp [droppedKeys]) hkept
  · exact absurd (by simp [droppedKeys]) hkept

theorem steel_reaches (hclaimed : key ∈ renderedKeys "steel")
    (hkept : key ∉ droppedKeys "steel") :
    ¬Ignores platform "steel" key := by
  have hkeys := hclaimed
  simp only [renderedKeys, List.mem_cons, List.not_mem_nil, or_false] at hkeys
  rcases hkeys with rfl | rfl | rfl | rfl | rfl
  · refine reaches_of_row [_, _] [_, _] (.string "x") hclaimed rfl rfl ?_ strField_reaches
    intro sd sd' hskip
    simp [strField, f64Field, hskip]
  · exact absurd (by simp [droppedKeys]) hkept
  · exact absurd (by simp [droppedKeys]) hkept
  · exact absurd (by simp [droppedKeys]) hkept
  · refine reaches_of_row [_] [_, _, _] (.string "x") hclaimed rfl rfl ?_ strField_reaches
    intro sd sd' hskip
    simp [strField, f64Field, hskip]

theorem tyre_reaches (hclaimed : key ∈ renderedKeys "tyre")
    (hkept : key ∉ droppedKeys "tyre") :
    ¬Ignores platform "tyre" key := by
  have hkeys := hclaimed
  simp only [renderedKeys, List.mem_cons, List.not_mem_nil, or_false] at hkeys
  rcases hkeys with rfl | rfl | rfl | rfl | rfl
  · exact absurd (by simp [droppedKeys]) hkept
  · refine reaches_of_row [] [_, _, _, _] (.string "x") hclaimed rfl rfl ?_ strField_reaches
    intro sd sd' hskip
    simp [strField, f64Field, hskip]
  · exact absurd (by simp [droppedKeys]) hkept
  · refine reaches_of_row [_, _] [_, _] (.string "x") hclaimed rfl rfl ?_ strField_reaches
    intro sd sd' hskip
    simp [strField, f64Field, hskip]
  · exact absurd (by simp [droppedKeys]) hkept

theorem toy_reaches (hclaimed : key ∈ renderedKeys "toy")
    (hkept : key ∉ droppedKeys "toy") :
    ¬Ignores platform "toy" key := by
  have hkeys := hclaimed
  simp only [renderedKeys, List.mem_cons, List.not_mem_nil, or_false] at hkeys
  rcases hkeys with rfl | rfl | rfl | rfl
  · refine reaches_of_row [_, _] [_] (.string "x") hclaimed rfl rfl ?_ strField_reaches
    intro sd sd' hskip
    simp [strField, boolField, hskip]
  · refine reaches_of_row [_, _, _] [] (.bool true) hclaimed rfl rfl ?_
      fun h => boolField_reaches h ?_
    · intro sd sd' hskip
      simp [strField, hskip]
    · decide
  · exact absurd (by simp [droppedKeys]) hkept
  · exact absurd (by simp [droppedKeys]) hkept

theorem aluminium_reaches (hclaimed : key ∈ renderedKeys "aluminium")
    (hkept : key ∉ droppedKeys "aluminium") :
    ¬Ignores platform "aluminium" key := by
  have hkeys := hclaimed
  simp only [renderedKeys, List.mem_cons, List.not_mem_nil, or_false] at hkeys
  rcases hkeys with rfl | rfl | rfl | rfl | rfl
  · refine reaches_of_row [_, _] [_, _] (.string "x") hclaimed rfl rfl ?_ strField_reaches
    intro sd sd' hskip
    simp [strField, f64Field, hskip]
  · exact absurd (by simp [droppedKeys]) hkept
  · refine reaches_of_row [_, _, _] [_] (.int 0) hclaimed rfl rfl ?_
      fun h => f64Field_reaches h ?_
    · intro sd sd' hskip
      simp [strField, f64Field, hskip]
    · exact append_ne (by decide)
  · refine reaches_of_row [_, _, _, _] [] (.int 0) hclaimed rfl rfl ?_
      fun h => f64Field_reaches h ?_
    · intro sd sd' hskip
      simp [strField, f64Field, hskip]
    · exact append_ne (by decide)
  · refine reaches_of_row [_] [_, _, _] (.string "x") hclaimed rfl rfl ?_ strField_reaches
    intro sd sd' hskip
    simp [strField, f64Field, hskip]

theorem furniture_reaches (hclaimed : key ∈ renderedKeys "furniture")
    (hkept : key ∉ droppedKeys "furniture") :
    ¬Ignores platform "furniture" key := by
  have hkeys := hclaimed
  simp only [renderedKeys, List.mem_cons, List.not_mem_nil, or_false] at hkeys
  rcases hkeys with rfl | rfl | rfl | rfl | rfl
  · refine reaches_of_row [_, _] [_, _] (.string "x") hclaimed rfl rfl ?_ strField_reaches
    intro sd sd' hskip
    simp [strField, f64Field, hskip]
  · refine reaches_of_row [_] [_, _, _] (.string "x") hclaimed rfl rfl ?_ strField_reaches
    intro sd sd' hskip
    simp [strField, f64Field, hskip]
  · exact absurd (by simp [droppedKeys]) hkept
  · exact absurd (by simp [droppedKeys]) hkept
  · exact absurd (by simp [droppedKeys]) hkept

theorem detergent_reaches (hclaimed : key ∈ renderedKeys "detergent")
    (hkept : key ∉ droppedKeys "detergent") :
    ¬Ignores platform "detergent" key := by
  have hkeys := hclaimed
  simp only [renderedKeys, List.mem_cons, List.not_mem_nil, or_false] at hkeys
  rcases hkeys with rfl | rfl | rfl | rfl
  · refine reaches_of_row [_, _] [_, _] (.string "x") hclaimed rfl rfl ?_ strField_reaches
    intro sd sd' hskip
    simp [strField, boolField, arrayLenField, hskip]
  · refine reaches_of_row [] [_, _, _, _] (.string "x") hclaimed rfl rfl ?_ strField_reaches
    intro sd sd' hskip
    simp [strField, boolField, arrayLenField, hskip]
  · exact absurd (by simp [droppedKeys]) hkept
  · exact absurd (by simp [droppedKeys]) hkept

theorem construction_reaches (hclaimed : key ∈ renderedKeys "construction")
    (hkept : key ∉ droppedKeys "construction") : ¬Ignores platform "construction" key := by
  have hkeys := hclaimed
  simp only [renderedKeys, List.mem_cons, List.not_mem_nil, or_false] at hkeys
  rcases hkeys with rfl | rfl | rfl | rfl | rfl
  · refine reaches_of_row [] [_, _, _] (.string "x") hclaimed rfl rfl ?_ strField_reaches
    intro sd sd' hskip
    simp [strField, f64Field, boolField, hskip]
  · refine reaches_of_row [_] [_, _] (.string "x") hclaimed rfl rfl ?_ strField_reaches
    intro sd sd' hskip
    simp [strField, f64Field, boolField, hskip]
  · refine reaches_of_row [_, _] [_] (.int 0) hclaimed rfl rfl ?_ fun h => ?_
    · intro sd sd' hskip
      simp [strField, boolField, hskip]
    · have hunit : esc "unit" = "unit" := by decide +kernel
      simp only [f64Field, strField]
      simpa [Value.get, Value.asF64, hunit] using append_ne (by decide)
  · refine reaches_of_curated [("co2ePerFunctionalUnitKg", .int 0)] (.string "x") hclaimed ?_
    intro h
    have hrow := Table.build_cancel (constructionTable platform) [_, _] [_] rfl
      ?_ h
    · have hesc : esc "x" ≠ esc "unit" := by decide +kernel
      simp [f64Field, strField, Value.get, Value.asStr, Value.asF64, onlyGroup, hesc] at hrow
    · simp [strField, boolField, Value.get, onlyGroup]
  · exact absurd (by simp [droppedKeys]) hkept

theorem textile_reaches {group : String} (hgroup : group = "textile" ∨ group = "unsoldGoods")
    (hclaimed : key ∈ renderedKeys group) : ¬Ignores platform group key := by
  have hkeys : key ∈ renderedKeys "textile" := by
    rcases hgroup with rfl | rfl <;> exact hclaimed
  have hcurated : curatedSection platform group = ofData (buildTextile platform) := by
    rcases hgroup with rfl | rfl <;> rfl
  have hreach : ∀ value : Value F, buildTextile platform
        (.object (onlyGroup group ++ [(key, value)])) ≠
      buildTextile platform (.object (onlyGroup group)) → ¬Ignores platform group key := by
    intro value h
    refine reaches_of_curated [] value hclaimed ?_
    rw [hcurated, List.append_nil, List.append_nil]
    exact h
  have hskip : ∀ value : Value F, ∀ k ≠ key,
      (Value.object (onlyGroup group ++ [(key, value)])).get k =
        (Value.object (onlyGroup group)).get k := fun value k hk => by
    rw [get_skip _ _ hk, List.append_nil]
  have hesc : esc "x" ≠ esc "-" := by decide +kernel
  simp only [renderedKeys, List.mem_cons, List.not_mem_nil, or_false] at hkeys
  rcases hkeys with rfl | rfl | rfl | rfl | rfl
  · refine hreach (.string "x") fun h => ?_
    simp [buildTextile, strField, f64Field, fibresOf, hskip] at h
    have hcell := (format_cancel [] (Nat.le_of_ble_eq_true rfl)).mp h
    simp [Value.get, onlyGroup, Value.asStr, hesc] at hcell
  · refine hreach (.string "x") fun h => ?_
    simp [buildTextile, strField, f64Field, fibresOf, hskip] at h
    have hcell := (format_cancel [_] (Nat.le_of_ble_eq_true rfl)).mp h
    simp [Value.get, onlyGroup, Value.asStr, hesc] at hcell
  · refine hreach (.string "x") fun h => ?_
    simp [buildTextile, strField, f64Field, fibresOf, hskip] at h
    have hcell := (format_cancel [_, _] (Nat.le_of_ble_eq_true rfl)).mp h
    simp [Value.get, onlyGroup, Value.asStr, hesc] at hcell
  · refine hreach (.int 0) fun h => ?_
    simp [buildTextile, strField, f64Field, fibresOf, hskip] at h
    have hcell := (format_cancel [_, _, _] (Nat.le_of_ble_eq_true rfl)).mp h
    simp [Value.get, onlyGroup, Value.asF64] at hcell
    exact append_ne (by decide) hcell
  · refine hreach (.array [.object [("fibre", .string "x"), ("pct", .int 0)]]) fun h => ?_
    have hfibres : fibresOf platform (.object (onlyGroup group ++ [("fibreComposition",
        .array [.object [("fibre", .string "x"), ("pct", .int 0)]])])) =
      [("x", platform.ofInt 0)] := by
      simp [fibresOf, fibreOf, Value.get, onlyGroup, Value.asArray, Value.asStr, Value.asF64]
    have hnone : fibresOf platform (.object (onlyGroup group)) = [] := by
      simp [fibresOf, Value.get, onlyGroup]
    have hstr : ∀ k ≠ "fibreComposition", strField k "-" (.object (onlyGroup group ++
        [("fibreComposition", .array [.object [("fibre", .string "x"), ("pct", .int 0)]])])) =
      strField k "-" (Value.object (F := F) (onlyGroup group)) := fun k hk => by
      rw [strField, strField, hskip _ k hk]
    have hpercent : f64Field platform "recycledContentPct" "-" (percent platform)
        (.object (onlyGroup group ++
          [("fibreComposition", .array [.object [("fibre", .string "x"), ("pct", .int 0)]])])) =
      f64Field platform "recycledContentPct" "-" (percent platform)
        (.object (onlyGroup group)) := by
      rw [f64Field, f64Field, hskip _ _ (by decide)]
    simp only [buildTextile, hpercent, hfibres, hnone, hstr "countryOfOrigin" (by decide),
      hstr "careInstructions" (by decide), hstr "chemicalComplianceStandard" (by decide)] at h
    have hlength := congrArg String.length h
    have hbar : 0 < (buildFibreBar platform [("x", platform.ofInt 0)]).length := by
      have hend : 0 < "</div>".length := by decide +kernel
      rw [buildFibreBar, if_neg (by simp), fibreBarPieces, format, format, String.length_append,
        String.length_append]
      omega
    have hnobar : (buildFibreBar platform ([] : List (String × F))).length = 0 := rfl
    have hnolegend : (buildFibreLegend platform ([] : List (String × F))).length = 0 := rfl
    simp only [format, textilePieces, String.length_append] at hlength
    omega

theorem reaches_of_claimed (hclaimed : key ∈ renderedKeys group)
    (hkept : key ∉ droppedKeys group) : ¬Ignores platform group key := by
  have hgroups := hclaimed
  unfold renderedKeys at hgroups
  split at hgroups
  · exact battery_reaches hclaimed
  · exact textile_reaches (.inl rfl) hclaimed
  · exact textile_reaches (.inr rfl) hclaimed
  · exact electronics_reaches hclaimed hkept
  · exact steel_reaches hclaimed hkept
  · exact construction_reaches hclaimed hkept
  · exact tyre_reaches hclaimed hkept
  · exact toy_reaches hclaimed hkept
  · exact aluminium_reaches hclaimed hkept
  · exact furniture_reaches hclaimed hkept
  · exact detergent_reaches hclaimed hkept
  · cases hgroups

theorem ignores_of_dropped (h : key ∈ droppedKeys group) : Ignores platform group key := by
  have hclaimed := mem_droppedKeys h
  obtain ⟨hgroup, hidentifier, hgtin⟩ := mem_renderedKeys hclaimed
  intro dppId base notice before after rest value hstated
  rw [renderPage_eq_iff (fun k => withData_get) (identifier_skip hidentifier hgtin),
    buildProductGroupSection, buildProductGroupSection, productGroup_skip hgroup, hstated,
    buildRemainderSection_eq, buildRemainderSection_eq, remaining_skip hclaimed,
    curated_ignores h]

/-- Every member of the data reaches the page, but for those that a curated table claims and does
not read. -/
theorem ignored_iff_dropped : Ignores platform group key ↔ key ∈ droppedKeys group := by
  refine ⟨fun h => ?_, ignores_of_dropped⟩
  by_contra hkept
  by_cases hclaimed : key ∈ renderedKeys group
  · exact reaches_of_claimed hclaimed hkept h
  · by_cases hkey : key = "productGroup"
    · exact reaches_of_group (hkey ▸ h)
    · exact reaches_of_unclaimed hkey hclaimed h

theorem toy_warnings_ignored : Ignores samplePlatform "toy" "safetyWarnings" :=
  ignored_iff_dropped.mpr (by decide)

end Claimed

section Rows

variable {F : Type} {platform : Platform F} {p : Value F} {key : String} {value : Value F}

def unescaped : List Char → List Char
  | '&' :: 'a' :: 'm' :: 'p' :: ';' :: cs => '&' :: unescaped cs
  | '&' :: 'l' :: 't' :: ';' :: cs => '<' :: unescaped cs
  | '&' :: 'g' :: 't' :: ';' :: cs => '>' :: unescaped cs
  | '&' :: 'q' :: 'u' :: 'o' :: 't' :: ';' :: cs => '"' :: unescaped cs
  | '&' :: '#' :: '3' :: '9' :: ';' :: cs => '\'' :: unescaped cs
  | c :: cs => c :: unescaped cs
  | [] => []

theorem unescaped_escaped (c : Char) (cs : List Char) :
    unescaped (escaped c ++ cs) = c :: unescaped cs := by
  unfold escaped
  split
  case h_6 hamp _ _ _ _ =>
    rw [List.singleton_append, unescaped]
    all_goals
      intros
      exact hamp (by assumption)
  all_goals rfl

theorem unescaped_esc (s : String) : unescaped (esc s).toList = s.toList := by
  rw [esc, String.toList_ofList]
  induction s.toList with
  | nil => rfl
  | cons c cs ih => rw [List.flatMap_cons, unescaped_escaped, ih]

theorem mem_remaining {keys : List String} {members : List (String × Value F)}
    (hdata : p.get "productGroupData" = some (.object members)) (hmem : (key, value) ∈ members)
    (hkey : key ≠ "productGroup") (hunclaimed : key ∉ keys) (hvalue : value.isNull = false) :
    (key, value) ∈ remaining keys p := by
  simp [remaining, hdata, remainderMembers, Value.asObject, hmem, skip, hkey, hunclaimed, hvalue]

/-- A member that no curated table claims has a row, which reads as its name and what it says. -/
theorem unclaimed_has_row {dppId base : String} {notice : SnapshotNotice}
    {members : List (String × Value F)}
    (hdata : p.get "productGroupData" = some (.object members)) (hmem : (key, value) ∈ members)
    (hkey : key ≠ "productGroup") (hunclaimed : key ∉ renderedKeys (productGroup p))
    (hvalue : value.isNull = false) :
    ∃ label cell, Part (format remainderRowPieces [label, cell])
        (renderPage platform dppId p base notice) ∧
      unescaped label.toList = (humanise platform key).toList ∧
      ∀ s, value = .string s → unescaped cell.toList = s.toList := by
  refine ⟨esc (humanise platform key), renderValue platform value, ?_, unescaped_esc _, ?_⟩
  · have hremaining := mem_remaining hdata hmem hkey hunclaimed hvalue
    have hrow : Part (remainderRow platform key value)
        (buildRemainderSection platform p (renderedKeys (productGroup p))) := by
      rw [buildRemainderSection_eq, if_neg (by
        rw [List.isEmpty_iff]
        exact List.ne_nil_of_mem hremaining)]
      refine Part.trans (Part.join ?_) (Part.format [] (by decide))
      exact List.mem_map.mpr ⟨_, hremaining, rfl⟩
    refine hrow.trans (Part.trans ?_ (Part.format
      [_, _, _, _, _, _, _, _, _, _, _, _, _] (Nat.le_of_ble_eq_true rfl)))
    exact ⟨_, "", (String.append_empty ..).symm⟩
  · rintro s rfl
    rw [renderValue]
    exact unescaped_esc s

theorem washes_have_row : ∃ label cell,
    Part (format remainderRowPieces [label, cell])
      (renderPage samplePlatform "1" (namedCoat "<coat>") "https://id" .live) ∧
    unescaped label.toList = (humanise samplePlatform "washes").toList ∧
    ∀ s, Value.string (F := ℕ) "<coat>" = .string s → unescaped cell.toList = s.toList :=
  unclaimed_has_row (F := ℕ) rfl (by simp) (by decide) (by decide +kernel) rfl

end Rows

end PageRows
