import DppEngine.MarkupLexing
import Mathlib.Data.List.DropRight

/-! The public page of a passport, as it is written from the public view.

A page is fixed text with escaped values in it: the envelope's fields, a curated table for the
product groups that have one, and a row for every other member of the product group's data that
the curated table does not claim. What formats a number, a date or a character's case, and the QR
symbol's modules, are the platform's. -/
namespace RenderedPages

open MarkupLexing

section Values

inductive Value (F : Type) where
  | null
  | bool (b : Bool)
  | int (i : Int)
  | float (x : F)
  | string (s : String)
  | array (items : List (Value F))
  | object (members : List (String × Value F))

/-- What the language and the QR library answer. A number's and a date's digits are no markup. -/
structure Platform (F : Type) where
  toUppercase : Char → List Char
  isUppercase : Char → Bool
  isNumeric : Char → Bool
  ofInt : Int → F
  atLeastTen : F → Bool
  display : F → String
  fixed : ℕ → F → String
  minutes : Int → String
  qrCode : String → Option (ℕ × List Bool)
  fixed_inert : ∀ n x, Inert (fixed n x)
  minutes_inert : ∀ t, Inert (minutes t)

variable {F : Type}

namespace Value

def get (key : String) : Value F → Option (Value F)
  | .object members => (members.find? fun m => m.1 = key).map Prod.snd
  | _ => none

def asStr : Value F → Option String
  | .string s => some s
  | _ => none

def asBool : Value F → Option Bool
  | .bool b => some b
  | _ => none

def asF64 (platform : Platform F) : Value F → Option F
  | .int i => some (platform.ofInt i)
  | .float x => some x
  | _ => none

def asU64 : Value F → Option ℕ
  | .int (.ofNat n) => some n
  | _ => none

def asArray : Value F → Option (List (Value F))
  | .array items => some items
  | _ => none

def asObject : Value F → Option (List (String × Value F))
  | .object members => some members
  | _ => none

def isNull : Value F → Bool
  | .null => true
  | _ => false

def isScalar : Value F → Bool
  | .string _ | .int _ | .float _ => true
  | _ => false

end Value

end Values

section Escaping

def escaped : Char → List Char
  | '&' => ['&', 'a', 'm', 'p', ';']
  | '<' => ['&', 'l', 't', ';']
  | '>' => ['&', 'g', 't', ';']
  | '"' => ['&', 'q', 'u', 'o', 't', ';']
  | '\'' => ['&', '#', '3', '9', ';']
  | c => [c]

def esc (s : String) : String := String.ofList (s.toList.flatMap escaped)

end Escaping

section Fields

variable {F : Type} (platform : Platform F)

def strField (key fallback : String) (sd : Value F) : String :=
  esc (((sd.get key).bind Value.asStr).getD fallback)

def f64Field (key fallback : String) (fmt : F → String) (sd : Value F) : String :=
  (((sd.get key).bind (Value.asF64 platform)).map fmt).getD fallback

def u64Field (key fallback : String) (fmt : ℕ → String) (sd : Value F) : String :=
  (((sd.get key).bind Value.asU64).map fmt).getD fallback

def boolField (key fallback yes no : String) (sd : Value F) : String :=
  (((sd.get key).bind Value.asBool).map fun b => if b then yes else no).getD fallback

def arrayLenField (key fallback : String) (sd : Value F) : String :=
  (((sd.get key).bind Value.asArray).map fun items => toString items.length).getD fallback

end Fields

section Remainder

variable {F : Type} (platform : Platform F)

def skip : List String := ["productGroup"]

/-- The words of a key after its first character; `prev` is the character before. -/
def humaniseAfter (prev : Char) : List Char → List Char
  | [] => []
  | c :: cs =>
    let startsWord := platform.isUppercase c || c.isDigit && !platform.isNumeric prev
    (if startsWord then [' ', c] else [c]) ++ humaniseAfter c cs

def humanise (key : String) : String :=
  match key.toList with
  | [] => ""
  | c :: cs => String.ofList (platform.toUppercase c ++ humaniseAfter platform c cs)

mutual

def renderValue : Value F → String
  | .string s => esc s
  | .int i => esc (toString i)
  | .float x => esc (platform.display x)
  | .bool b => if b then "Yes" else "No"
  | .array [] => "None"
  | .array (item :: items) =>
    if (item :: items).all Value.isScalar then
      ", ".intercalate (renderValue item :: renderItems items)
    else toString (item :: items).length ++ " entries"
  | .object members => "; ".intercalate (renderMembers members)
  | .null => ""

def renderItems : List (Value F) → List String
  | [] => []
  | item :: items => renderValue item :: renderItems items

def renderMembers : List (String × Value F) → List String
  | [] => []
  | (key, value) :: members =>
    if value.isNull then renderMembers members
    else (esc (humanise platform key) ++ ": " ++ renderValue value) :: renderMembers members

end

def remainderRowPieces : List String := [
  "<tr><th scope=\"row\">",
  "</th><td>",
  "</td></tr>"]

def remainderRow (key : String) (value : Value F) : String :=
  format remainderRowPieces [esc (humanise platform key), renderValue platform value]

def remainderMembers (alreadyRendered : List String) (members : List (String × Value F)) :
    List (String × Value F) :=
  members.filter fun m => !skip.contains m.1 && !alreadyRendered.contains m.1 && !m.2.isNull

def remainderPieces : List String := [
  "<h2>Further Public Data</h2>
    <table aria-label=\"Further public data\">",
  "</table>"]

def buildRemainderSection (p : Value F) (alreadyRendered : List String) : String :=
  match (p.get "productGroupData").bind Value.asObject with
  | none => ""
  | some members =>
    let rows := String.join ((remainderMembers alreadyRendered members).map fun m =>
      remainderRow platform m.1 m.2)
    if rows.isEmpty then "" else format remainderPieces [rows]

end Remainder

section Sections

variable {F : Type} (platform : Platform F)

/-- A curated section: a heading, and a table that reads one cell after another. -/
structure Table (F : Type) where
  title : String
  ariaLabel : String
  rows : List (String × (Value F → String))

def tableRow (label cell : String) : String :=
  format ["      <tr><th scope=\"row\">", "</th><td>", "</td></tr>\n"] [label, cell]

def Table.build (table : Table F) (sd : Value F) : String :=
  format ["<h2>", "</h2>\n    <table aria-label=\"", "\">\n", "    </table>"]
    [table.title, table.ariaLabel,
      String.join (table.rows.map fun row => tableRow row.1 (row.2 sd))]

def ofData (build : Value F → String) (p : Value F) : String :=
  ((p.get "productGroupData").map build).getD ""

def percent (x : F) : String := platform.fixed 1 x ++ "%"

def carbon (x : F) : String := platform.fixed 2 x ++ " kg CO₂e"

def batteryTable : Table F where
  title := "Battery Information"
  ariaLabel := "Battery data"
  rows := [
    ("Chemistry", strField "batteryChemistry" "-"),
    ("Nominal Voltage", f64Field platform "nominalVoltageV" "-" fun v =>
      platform.fixed 1 v ++ " V"),
    ("Nominal Capacity", f64Field platform "nominalCapacityAh" "-" fun v =>
      platform.fixed 1 v ++ " Ah"),
    ("Expected Lifetime", fun sd =>
      u64Field "expectedLifetimeCycles" "-" toString sd ++ " cycles"),
    ("Carbon Footprint", f64Field platform "co2ePerUnitKg" "Not disclosed" (carbon platform)),
    ("Recycled Cobalt", f64Field platform "recycledContentCobaltPct" "-" (percent platform)),
    ("Recycled Lithium", f64Field platform "recycledContentLithiumPct" "-" (percent platform))]

def deviceTypeLabel (raw : String) : String :=
  if raw = "smartphone" then "Smartphone"
  else if raw = "other-mobile-phone" then "Mobile phone (other than a smartphone)"
  else if raw = "cordless-phone" then "Cordless phone"
  else if raw = "tablet" then "Slate tablet"
  else raw

def overallScore (key fallback : String) (fmt : F → String) (sd : Value F) : String :=
  ((((sd.get key).bind (Value.get "overall")).bind (Value.asF64 platform)).map fmt).getD fallback

def electronicsTable : Table F where
  title := "Electronics Information"
  ariaLabel := "Electronics data"
  rows := [
    ("Product Category", fun sd => deviceTypeLabel (strField "productCategory" "-" sd)),
    ("Energy Efficiency", strField "energyEfficiencyClass" "-"),
    ("Carbon Footprint", f64Field platform "co2ePerUnitKg" "Not disclosed" (carbon platform)),
    ("Repairability Score", overallScore platform "repairabilityScore" "-" fun v =>
      platform.fixed 1 v ++ " / 10"),
    ("Expected Lifetime", u64Field "expectedLifetimeYears" "-" fun v => toString v ++ " years")]

def steelTable : Table F where
  title := "Steel Product Information"
  ariaLabel := "Steel data"
  rows := [
    ("Product Category", strField "productCategory" "-"),
    ("Production Route", strField "productionRoute" "-"),
    ("Country of Production", strField "countryOfOrigin" "-"),
    ("Carbon Intensity", f64Field platform "co2ePerTonneSteel" "-" fun v =>
      platform.fixed 3 v ++ " t CO₂e / t steel"),
    ("Recycled Scrap Content",
      f64Field platform "recycledScrapContentPct" "-" (percent platform))]

def constructionTable : Table F where
  title := "Construction Product Information"
  ariaLabel := "Construction product data"
  rows := [
    ("Product Family", strField "productFamily" "-"),
    ("Country of Manufacture", strField "countryOfOrigin" "-"),
    ("Carbon Footprint", fun sd =>
      let unit := strField "functionalUnit" "unit" sd
      f64Field platform "co2ePerFunctionalUnitKg" "-"
        (fun v => platform.fixed 2 v ++ " kg CO₂e / " ++ unit) sd),
    ("CE Marking", boolField "ceMarking" "-" "Yes" "No")]

def tyreTable : Table F where
  title := "Tyre Labelling Information"
  ariaLabel := "Tyre data"
  rows := [
    ("Tyre Class", strField "tyreClass" "-"),
    ("Fuel Efficiency (EU 2020/740)", strField "fuelEfficiencyClass" "-"),
    ("Wet Grip Class", strField "wetGripClass" "-"),
    ("External Rolling Noise", f64Field platform "externalRollingNoiseDb" "-" fun v =>
      platform.fixed 0 v ++ " dB"),
    ("Noise Performance Class", strField "noisePerformanceClass" "-")]

def toyTable : Table F where
  title := "Toy Safety Information"
  ariaLabel := "Toy data"
  rows := [
    ("Age Group", strField "ageGroup" "-"),
    ("Primary Material", strField "primaryMaterial" "-"),
    ("Country of Manufacture", strField "countryOfOrigin" "-"),
    ("CE Marking", boolField "ceMarking" "-" "Yes" "No")]

def aluminiumTable : Table F where
  title := "Aluminium Product Information"
  ariaLabel := "Aluminium data"
  rows := [
    ("Alloy Grade", strField "alloyGrade" "-"),
    ("Production Route", strField "productionRoute" "-"),
    ("Country of Production", strField "countryOfOrigin" "-"),
    ("Carbon Intensity", f64Field platform "co2ePerTonneKg" "-" fun v =>
      platform.fixed 2 v ++ " kg CO₂e / t"),
    ("Recycled Content", f64Field platform "recycledContentPct" "-" (percent platform))]

def furnitureTable : Table F where
  title := "Furniture Information"
  ariaLabel := "Furniture data"
  rows := [
    ("Product Type", strField "productType" "-"),
    ("Primary Material", strField "primaryMaterial" "-"),
    ("Country of Manufacture", strField "countryOfOrigin" "-"),
    ("Carbon Footprint", f64Field platform "co2ePerUnitKg" "Not disclosed" (carbon platform)),
    ("Repairability Score", f64Field platform "repairabilityScore" "-" fun v =>
      platform.fixed 1 v ++ " / 10")]

def detergentTable : Table F where
  title := "Detergent Information"
  ariaLabel := "Detergent data"
  rows := [
    ("Product Type", strField "productType" "-"),
    ("Format", strField "format" "-"),
    ("Country of Manufacture", strField "countryOfOrigin" "-"),
    ("Biodegradability", boolField "biodegradable" "-" "All surfactants biodegradable"
      "Not fully biodegradable"),
    ("Surfactants Declared", arrayLenField "surfactants" "-")]

def fibreColours : List String := [
  "#2563eb", "#16a34a", "#d97706", "#dc2626", "#7c3aed", "#0891b2", "#059669", "#b45309",
  "#9333ea", "#0284c7"]

def fibreColour (i : ℕ) : String := fibreColours.getD (i % fibreColours.length) ""

def fibreOf (e : Value F) : Option (String × F) := do
  let name ← (← e.get "fibre").asStr
  let pct ← (← e.get "pct").asF64 platform
  some (name, pct)

def fibresOf (sd : Value F) : List (String × F) :=
  (((sd.get "fibreComposition").bind Value.asArray).map fun items =>
    items.filterMap (fibreOf platform)).getD []

def fibreSegPieces : List String := [
  "<div class=\"fibre-seg\" style=\"width:",
  "%;background:",
  "\" title=\"",
  ": ",
  "%\" aria-label=\"",
  " ",
  " percent\">",
  "</div>"]

def fibreBarPieces : List String := [
  "<div class=\"fibre-bar\" role=\"img\" aria-label=\"Fibre composition bar chart\">",
  "</div>"]

def fibreSeg (i : ℕ) (fibre : String × F) : String :=
  let name := esc fibre.1
  let pct := platform.fixed 1 fibre.2
  let label := if platform.atLeastTen fibre.2 then platform.fixed 0 fibre.2 ++ "%" else ""
  format fibreSegPieces [pct, fibreColour i, name, pct, name, pct, label]

def buildFibreBar (fibres : List (String × F)) : String :=
  if fibres.isEmpty then ""
  else format fibreBarPieces [String.join (fibres.mapIdx (fibreSeg platform))]

def legendItemPieces : List String := [
  "<span style=\"display:inline-flex;align-items:center;gap:.25rem;margin:.2rem .4rem 0 0;font-size:.75rem\"><span style=\"display:inline-block;width:10px;height:10px;background:",
  ";border-radius:2px;flex-shrink:0\" aria-hidden=\"true\"></span>",
  " ",
  "%</span>"]

def legendPieces : List String := [
  "<div style=\"margin-top:.4rem\">",
  "</div>"]

def legendItem (i : ℕ) (fibre : String × F) : String :=
  format legendItemPieces [fibreColour i, esc fibre.1, platform.fixed 1 fibre.2]

def buildFibreLegend (fibres : List (String × F)) : String :=
  if fibres.isEmpty then ""
  else format legendPieces [String.join (fibres.mapIdx (legendItem platform))]

def textilePieces : List String := [
  "<h2>Textile Information</h2>
    <table aria-label=\"Textile data\">
      <tr><th scope=\"row\">Country of Manufacturing</th><td>",
  "</td></tr>
      <tr><th scope=\"row\">Care Instructions</th><td>",
  "</td></tr>
      <tr><th scope=\"row\">Chemical Compliance</th><td>",
  "</td></tr>
      <tr><th scope=\"row\">Recycled Content</th><td>",
  "</td></tr>
      <tr>
        <th scope=\"row\">Fibre Composition</th>
        <td>
          ",
  "
          ",
  "
        </td>
      </tr>
    </table>"]

def buildTextile (sd : Value F) : String :=
  let fibres := fibresOf platform sd
  format textilePieces [
    strField "countryOfOrigin" "-" sd, strField "careInstructions" "-" sd,
    strField "chemicalComplianceStandard" "-" sd,
    f64Field platform "recycledContentPct" "-" (percent platform) sd,
    buildFibreBar platform fibres, buildFibreLegend platform fibres]

def buildBatterySection : Value F → String := ofData (batteryTable platform).build
def buildTextileSection : Value F → String := ofData (buildTextile platform)
def buildElectronicsSection : Value F → String := ofData (electronicsTable platform).build
def buildSteelSection : Value F → String := ofData (steelTable platform).build
def buildConstructionSection : Value F → String := ofData (constructionTable platform).build
def buildTyreSection : Value F → String := ofData (tyreTable platform).build
def buildToySection : Value F → String := ofData toyTable.build
def buildAluminiumSection : Value F → String := ofData (aluminiumTable platform).build
def buildFurnitureSection : Value F → String := ofData (furnitureTable platform).build
def buildDetergentSection : Value F → String := ofData detergentTable.build

def curatedSection : String → Value F → String
  | "battery" => buildBatterySection platform
  | "textile" | "unsoldGoods" => buildTextileSection platform
  | "electronics" => buildElectronicsSection platform
  | "steel" => buildSteelSection platform
  | "construction" => buildConstructionSection platform
  | "tyre" => buildTyreSection platform
  | "toy" => buildToySection
  | "aluminium" => buildAluminiumSection platform
  | "furniture" => buildFurnitureSection platform
  | "detergent" => buildDetergentSection
  | _ => fun _ => ""

def renderedKeys : String → List String
  | "battery" => ["batteryChemistry", "nominalVoltageV", "nominalCapacityAh",
      "expectedLifetimeCycles", "co2ePerUnitKg", "recycledContentCobaltPct",
      "recycledContentLithiumPct"]
  | "textile" | "unsoldGoods" => ["countryOfOrigin", "careInstructions",
      "chemicalComplianceStandard", "recycledContentPct", "fibreComposition"]
  | "electronics" => ["countryOfOrigin", "energyEfficiencyClass", "expectedLifetimeHours",
      "recycledContentPct"]
  | "steel" => ["countryOfOrigin", "steelGrade", "co2ePerTonneKg", "recycledContentPct",
      "productionRoute"]
  | "construction" => ["productFamily", "countryOfOrigin", "co2ePerFunctionalUnitKg",
      "functionalUnit", "recycledContentPct"]
  | "tyre" => ["countryOfOrigin", "tyreClass", "rollingResistanceClass", "wetGripClass",
      "recycledContentPct"]
  | "toy" => ["countryOfOrigin", "ceMarking", "minimumAgeMonths", "safetyWarnings"]
  | "aluminium" => ["countryOfOrigin", "alloyDesignation", "co2ePerTonneKg",
      "recycledContentPct", "productionRoute"]
  | "furniture" => ["countryOfOrigin", "primaryMaterial", "recycledContentPct",
      "disassemblyInstructions", "expectedLifetimeYears"]
  | "detergent" => ["countryOfOrigin", "productType", "biodegradabilityPct", "hazardStatements"]
  | _ => []

def productGroup (p : Value F) : String :=
  (((p.get "productGroupData").bind (Value.get "productGroup")).bind Value.asStr).getD ""

def buildProductGroupSection (p : Value F) : String :=
  let curated := curatedSection platform (productGroup p) p
  let remainder := buildRemainderSection platform p (renderedKeys (productGroup p))
  curated ++ "\n" ++ remainder

end Sections

section Page

variable {F : Type} (platform : Platform F)

inductive SnapshotNotice where
  | live
  | snapshot (asOf validUntil : Int)
  deriving DecidableEq, Repr

def bannerPieces : List String := [
  "<div class=\"snapshot-note\" role=\"status\">This is a saved copy of this passport as of ",
  " UTC. The live service is temporarily unavailable, so some details may have changed since. The copy is signed and can be verified until ",
  " UTC; after that date it is out of date and should not be relied on.</div>"]

def bannerHtml : SnapshotNotice → String
  | .live => ""
  | .snapshot asOf validUntil =>
    format bannerPieces [platform.minutes asOf, platform.minutes validUntil]

/-- Blank modules on every side of the symbol. -/
def qrQuietZoneModules : ℕ := 4

def moduleSize : ℕ := 4

def rectPieces : List String := [
  "<rect x=\"",
  "\" y=\"",
  "\" width=\"",
  "\" height=\"",
  "\"/>"]

def rect (width i : ℕ) : String :=
  let x := (i % width + qrQuietZoneModules) * moduleSize
  let y := (i / width + qrQuietZoneModules) * moduleSize
  format rectPieces [toString x, toString y, toString moduleSize, toString moduleSize]

def darkModules (colors : List Bool) : List ℕ :=
  colors.zipIdx.filterMap fun color => if color.1 then some color.2 else none

def svgPieces : List String := [
  "<svg xmlns=\"http://www.w3.org/2000/svg\" viewBox=\"0 0 ",
  " ",
  "\" role=\"img\" aria-label=\"QR code for this passport\">
  <title>QR code: ",
  "</title>
  <rect width=\"",
  "\" height=\"",
  "\" fill=\"white\"/>
  <g fill=\"black\">",
  "</g>
</svg>"]

def buildQrSvg (carrierUri : String) : String :=
  match platform.qrCode carrierUri with
  | none => ""
  | some (width, colors) =>
    let total := toString ((width + qrQuietZoneModules * 2) * moduleSize)
    let rects := String.join ((darkModules colors).map (rect width))
    format svgPieces [total, total, esc carrierUri, total, total, rects]

def carrierUri (p : Value F) : Option String :=
  ((p.get "qrCodeUrl").bind Value.asStr).filter fun uri => !uri.isEmpty

def productIdentifier (p : Value F) : Option String := do
  let data ← p.get "productGroupData"
  let stated := (data.get "productIdentifier").bind fun id =>
    ["gtin", "url", "did"].findSome? fun key => id.get key
  (stated.or (data.get "gtin")).bind Value.asStr

def trimEndSlashes (s : String) : String := String.ofList (s.toList.rdropWhile (· = '/'))

def pagePieces : List String := [
  "<!DOCTYPE html>
<html lang=\"en\">
<head>
  <meta charset=\"UTF-8\">
  <meta name=\"viewport\" content=\"width=device-width,initial-scale=1\">
  <meta property=\"og:title\" content=\"",
  "\">
  <meta property=\"og:description\" content=\"Digital Product Passport — ",
  "\">
  <meta property=\"og:url\" content=\"",
  "\">
  <meta property=\"og:type\" content=\"website\">
  <title>DPP — ",
  "</title>
  <style>
    *\x7bbox-sizing:border-box;margin:0;padding:0\x7d
    body\x7bfont-family:system-ui,-apple-system,sans-serif;background:#f3f4f6;color:#111827;padding:1rem\x7d
    .card\x7bbackground:#fff;border-radius:10px;box-shadow:0 2px 12px rgba(0,0,0,.08);max-width:720px;margin:0 auto;padding:2rem\x7d
    h1\x7bfont-size:1.4rem;font-weight:700;margin-bottom:.35rem;line-height:1.3\x7d
    h2\x7bfont-size:1rem;font-weight:600;margin:1.4rem 0 .5rem;color:#374151\x7d
    .badge\x7bdisplay:inline-flex;align-items:center;padding:.25em .75em;border-radius:4px;font-size:.75rem;font-weight:700;letter-spacing:.05em;text-transform:uppercase;margin-bottom:1rem\x7d
    .badge-active,.badge-published\x7bbackground:#d1fae5;color:#065f46\x7d
    .badge-draft\x7bbackground:#fef3c7;color:#92400e\x7d
    .badge-suspended\x7bbackground:#fee2e2;color:#991b1b\x7d
    .badge-retired\x7bbackground:#e5e7eb;color:#374151\x7d
    table\x7bwidth:100%;border-collapse:collapse;margin-top:.5rem\x7d
    th,td\x7btext-align:left;padding:.5rem .4rem;border-bottom:1px solid #f3f4f6;vertical-align:top\x7d
    th\x7bwidth:44%;color:#6b7280;font-weight:500;font-size:.875rem\x7d
    td\x7bfont-size:.9rem\x7d
    .fibre-bar\x7bdisplay:flex;height:18px;border-radius:4px;overflow:hidden;margin-top:.3rem\x7d
    .fibre-seg\x7bheight:100%;display:flex;align-items:center;justify-content:center;font-size:.65rem;color:#fff;font-weight:600;white-space:nowrap;overflow:hidden\x7d
    .qr-wrap\x7btext-align:center;margin-top:1.5rem\x7d
    .qr-wrap svg\x7bmax-width:140px;height:auto\x7d
    .snapshot-note\x7bbackground:#fef3c7;border-left:4px solid #d97706;color:#78350f;padding:.75rem 1rem;border-radius:6px;font-size:.85rem;line-height:1.45;margin-bottom:1rem\x7d
    footer\x7bmargin-top:1.5rem;font-size:.75rem;color:#9ca3af;text-align:center\x7d
    footer a\x7bcolor:#6b7280;text-decoration:none\x7d
    footer a:hover\x7btext-decoration:underline\x7d
    @media(max-width:480px)\x7b.card\x7bpadding:1rem\x7dh1\x7bfont-size:1.2rem\x7dth,td\x7bpadding:.4rem .2rem\x7d\x7d
  </style>
</head>
<body>
  <div class=\"card\">
    ",
  "
    <h1>",
  "</h1>
    <span class=\"badge badge-",
  "\" role=\"status\" aria-label=\"Passport status: ",
  "\">",
  "</span>

    <h2>Product Information</h2>
    <table aria-label=\"Product information\">
      <tr><th scope=\"row\">Passport ID</th><td><code>",
  "</code></td></tr>
      <tr><th scope=\"row\">Manufacturer</th><td>",
  "</td></tr>
      <tr><th scope=\"row\">Product identifier</th><td>",
  "</td></tr>
      <tr><th scope=\"row\">Batch ID</th><td>",
  "</td></tr>
    </table>

    ",
  "

    <div class=\"qr-wrap\" aria-label=\"QR code linking to this passport\">
      ",
  "
      <p style=\"font-size:.7rem;color:#9ca3af;margin-top:.3rem\">Scan to verify</p>
    </div>

    <footer>
      Powered by <a href=\"https://odal-node.io\" rel=\"noopener\">Odal Node</a>
      &nbsp;·&nbsp;
      <a href=\"/dpp/",
  "\">JSON-LD</a>
      &nbsp;·&nbsp;
      <a href=\"/dpp/",
  "/qr\">QR PNG</a>
    </footer>
  </div>
</body>
</html>"]

def renderPage (dppId : String) (p : Value F) (resolverBaseUrl : String)
    (notice : SnapshotNotice) : String :=
  let banner := bannerHtml platform notice
  let product := esc (((p.get "productName").bind Value.asStr).getD "Unknown product")
  let manufacturer := esc ((((p.get "manufacturer").bind (Value.get "name")).bind
    Value.asStr).getD "Unknown")
  let status := esc (((p.get "status").bind Value.asStr).getD "unknown")
  let productIdentifier := esc ((productIdentifier p).getD "-")
  let batchId := esc (((p.get "batchId").bind Value.asStr).getD "-")
  let productGroupHtml := buildProductGroupSection platform p
  let qrSvg := ((carrierUri p).map (buildQrSvg platform)).getD ""
  let dppId := esc dppId
  let pageUrl := trimEndSlashes resolverBaseUrl ++ "/dpp/" ++ dppId
  format pagePieces [product, manufacturer, pageUrl, product, banner, product, status, status,
    status, dppId, manufacturer, productIdentifier, batchId, productGroupHtml, qrSvg, dppId,
    dppId]

end Page

section Markup

variable {F : Type} {platform : Platform F} {sd sd' p p' : Value F}
  {key fallback s a b : String}

theorem escaped_inert (c : Char) : (escaped c).all inert := by
  unfold escaped
  split
  case h_6 _ hopen hclose hdouble hsingle =>
    simpa [inert] using ⟨hopen, hclose, hdouble, hsingle⟩
  all_goals decide

theorem esc_inert : Inert (esc s) := by
  simp only [Inert, esc, String.toList_ofList, List.all_flatMap, List.all_eq_true, escaped_inert,
    implies_true]

theorem inert_of_isDigit {c : Char} (h : c.isDigit) : inert c := by
  by_contra hc
  simp only [inert, Bool.not_eq_true', Bool.not_eq_false, List.contains_iff_mem, List.mem_cons,
    List.not_mem_nil, or_false] at hc
  rcases hc with rfl | rfl | rfl | rfl <;> exact absurd h (by decide)

theorem toString_inert (n : ℕ) : Inert (toString n) := by
  rw [Inert, List.all_eq_true]
  intro c hc
  have hmem : c ∈ Nat.toDigits 10 n := by simpa [Nat.toString_eq_repr, Nat.repr] using hc
  exact inert_of_isDigit (Nat.isDigit_of_mem_toDigits (by omega) (by omega) hmem)

theorem literal_inert {cs : List Char} (h : cs.all inert) : Inert (String.ofList cs) := by
  rwa [Inert, String.toList_ofList]

theorem intercalate_inert {l : List String} (hs : Inert s) (h : ∀ a ∈ l, Inert a) :
    Inert (s.intercalate l) := by
  induction l with
  | nil => rfl
  | cons a l ih =>
    cases l with
    | nil =>
      rw [String.intercalate_singleton]
      exact h a List.mem_cons_self
    | cons b l =>
      rw [String.intercalate_cons_cons]
      exact ((h a List.mem_cons_self).append hs).append
        (ih fun c hc => h c (List.mem_cons_of_mem a hc))

section Cells

theorem getD_inert {α : Type} {o : Option α} {fmt : α → String} (hfallback : Inert fallback)
    (hfmt : ∀ x, Inert (fmt x)) : Inert ((o.map fmt).getD fallback) := by
  cases o with
  | none => exact hfallback
  | some x => exact hfmt x

end Cells

mutual

theorem renderValue_inert : ∀ v : Value F, Inert (renderValue platform v)
  | .null => by rw [renderValue]; rfl
  | .bool true | .bool false => by rw [renderValue]; exact literal_inert (by decide)
  | .int _ | .float _ | .string _ => by rw [renderValue]; exact esc_inert
  | .array [] => by rw [renderValue]; exact literal_inert (by decide)
  | .array (item :: items) => by
    rw [renderValue]
    split
    · refine intercalate_inert (literal_inert (by decide)) ?_
      intro a ha
      rcases List.mem_cons.mp ha with rfl | ha
      · exact renderValue_inert item
      · exact renderItems_inert items a ha
    · exact (toString_inert _).append (literal_inert (by decide))
  | .object members => by
    rw [renderValue]
    exact intercalate_inert (literal_inert (by decide)) (renderMembers_inert members)

theorem renderItems_inert :
    ∀ items : List (Value F), ∀ a ∈ renderItems platform items, Inert a
  | [] => by simp [renderItems]
  | item :: items => by
    intro a ha
    rw [renderItems] at ha
    rcases List.mem_cons.mp ha with rfl | ha
    · exact renderValue_inert item
    · exact renderItems_inert items a ha

theorem renderMembers_inert :
    ∀ members : List (String × Value F), ∀ a ∈ renderMembers platform members, Inert a
  | [] => by simp [renderMembers]
  | (key, value) :: members => by
    intro a ha
    rw [renderMembers] at ha
    split at ha
    · exact renderMembers_inert members a ha
    · rcases List.mem_cons.mp ha with rfl | ha
      · exact (esc_inert.append (literal_inert (by decide))).append (renderValue_inert value)
      · exact renderMembers_inert members a ha

end

end Markup

section Tables

variable {F : Type} {platform : Platform F} {sd sd' : Value F} {key : String}
  {label fallback suffix : List Char} {n : ℕ}

/-- The cell reads no markup out of the data, and the label is none. -/
def PlainRow (row : String × (Value F → String)) : Prop := Inert row.1 ∧ ∀ sd, Inert (row.2 sd)

structure Table.Plain (table : Table F) : Prop where
  title : Inert table.title
  ariaLabel : Inert table.ariaLabel
  rows : ∀ row ∈ table.rows, PlainRow row

theorem strField_plain {fallback : String} (h : label.all inert) :
    PlainRow (F := F) (String.ofList label, strField key fallback) :=
  ⟨literal_inert h, fun _ => esc_inert⟩

theorem f64Field_plain (h : (label ++ fallback ++ suffix).all inert) :
    PlainRow (String.ofList label, f64Field platform key (String.ofList fallback) fun v =>
      platform.fixed n v ++ String.ofList suffix) := by
  simp only [List.all_append, Bool.and_eq_true] at h
  refine ⟨literal_inert h.1.1, fun sd => getD_inert (literal_inert h.1.2) fun x => ?_⟩
  exact (platform.fixed_inert n x).append (literal_inert h.2)

theorem u64Field_plain (h : (label ++ fallback ++ suffix).all inert) :
    PlainRow (F := F) (String.ofList label, u64Field key (String.ofList fallback) fun v =>
      toString v ++ String.ofList suffix) := by
  simp only [List.all_append, Bool.and_eq_true] at h
  refine ⟨literal_inert h.1.1, fun sd => getD_inert (literal_inert h.1.2) fun x => ?_⟩
  exact (toString_inert x).append (literal_inert h.2)

theorem boolField_plain {yes no : List Char} (h : (label ++ fallback ++ yes ++ no).all inert) :
    PlainRow (F := F) (String.ofList label, boolField key (String.ofList fallback)
      (String.ofList yes) (String.ofList no)) := by
  simp only [List.all_append, Bool.and_eq_true] at h
  refine ⟨literal_inert h.1.1.1, fun sd => getD_inert (literal_inert h.1.1.2) ?_⟩
  rintro (_ | _)
  · exact literal_inert h.2
  · exact literal_inert h.1.2

theorem arrayLenField_plain (h : (label ++ fallback).all inert) :
    PlainRow (F := F) (String.ofList label, arrayLenField key (String.ofList fallback)) := by
  simp only [List.all_append, Bool.and_eq_true] at h
  exact ⟨literal_inert h.1, fun sd => getD_inert (literal_inert h.2) fun _ => toString_inert _⟩

theorem batteryTable_plain : (batteryTable platform).Plain where
  title := literal_inert (by decide)
  ariaLabel := literal_inert (by decide)
  rows := by
    simp only [batteryTable, List.forall_mem_cons, List.not_mem_nil, IsEmpty.forall_iff,
      implies_true, and_true]
    refine ⟨strField_plain (by decide), f64Field_plain (by decide), f64Field_plain (by decide),
      ?_, f64Field_plain (by decide), f64Field_plain (by decide), f64Field_plain (by decide)⟩
    refine ⟨literal_inert (by decide), fun sd => Inert.append ?_ (literal_inert (by decide))⟩
    exact getD_inert (literal_inert (by decide)) toString_inert

theorem deviceTypeLabel_inert {raw : String} (h : Inert raw) : Inert (deviceTypeLabel raw) := by
  unfold deviceTypeLabel
  split_ifs
  · exact literal_inert (by decide)
  · exact literal_inert (by decide)
  · exact literal_inert (by decide)
  · exact literal_inert (by decide)
  · exact h

theorem electronicsTable_plain : (electronicsTable platform).Plain where
  title := literal_inert (by decide)
  ariaLabel := literal_inert (by decide)
  rows := by
    simp only [electronicsTable, List.forall_mem_cons, List.not_mem_nil, IsEmpty.forall_iff,
      implies_true, and_true]
    refine ⟨⟨literal_inert (by decide), fun sd => ?_⟩, strField_plain (by decide),
      f64Field_plain (by decide), ⟨literal_inert (by decide), fun sd => ?_⟩,
      u64Field_plain (by decide)⟩
    · exact deviceTypeLabel_inert esc_inert
    · refine getD_inert (literal_inert (by decide)) fun x => ?_
      exact (platform.fixed_inert 1 x).append (literal_inert (by decide))

theorem steelTable_plain : (steelTable platform).Plain where
  title := literal_inert (by decide)
  ariaLabel := literal_inert (by decide)
  rows := by
    simp only [steelTable, List.forall_mem_cons, List.not_mem_nil, IsEmpty.forall_iff,
      implies_true, and_true]
    exact ⟨strField_plain (by decide), strField_plain (by decide), strField_plain (by decide),
      f64Field_plain (by decide), f64Field_plain (by decide)⟩

theorem constructionTable_plain : (constructionTable platform).Plain where
  title := literal_inert (by decide)
  ariaLabel := literal_inert (by decide)
  rows := by
    simp only [constructionTable, List.forall_mem_cons, List.not_mem_nil, IsEmpty.forall_iff,
      implies_true, and_true]
    refine ⟨strField_plain (by decide), strField_plain (by decide),
      ⟨literal_inert (by decide), fun sd => ?_⟩, boolField_plain (by decide)⟩
    refine getD_inert (literal_inert (by decide)) fun x => ?_
    exact ((platform.fixed_inert 2 x).append (literal_inert (by decide))).append esc_inert

theorem tyreTable_plain : (tyreTable platform).Plain where
  title := literal_inert (by decide)
  ariaLabel := literal_inert (by decide)
  rows := by
    simp only [tyreTable, List.forall_mem_cons, List.not_mem_nil, IsEmpty.forall_iff,
      implies_true, and_true]
    exact ⟨strField_plain (by decide), strField_plain (by decide), strField_plain (by decide),
      f64Field_plain (by decide), strField_plain (by decide)⟩

theorem toyTable_plain : (toyTable (F := F)).Plain where
  title := literal_inert (by decide)
  ariaLabel := literal_inert (by decide)
  rows := by
    simp only [toyTable, List.forall_mem_cons, List.not_mem_nil, IsEmpty.forall_iff,
      implies_true, and_true]
    exact ⟨strField_plain (by decide), strField_plain (by decide), strField_plain (by decide),
      boolField_plain (by decide)⟩

theorem aluminiumTable_plain : (aluminiumTable platform).Plain where
  title := literal_inert (by decide)
  ariaLabel := literal_inert (by decide)
  rows := by
    simp only [aluminiumTable, List.forall_mem_cons, List.not_mem_nil, IsEmpty.forall_iff,
      implies_true, and_true]
    exact ⟨strField_plain (by decide), strField_plain (by decide), strField_plain (by decide),
      f64Field_plain (by decide), f64Field_plain (by decide)⟩

theorem furnitureTable_plain : (furnitureTable platform).Plain where
  title := literal_inert (by decide)
  ariaLabel := literal_inert (by decide)
  rows := by
    simp only [furnitureTable, List.forall_mem_cons, List.not_mem_nil, IsEmpty.forall_iff,
      implies_true, and_true]
    exact ⟨strField_plain (by decide), strField_plain (by decide), strField_plain (by decide),
      f64Field_plain (by decide), f64Field_plain (by decide)⟩

theorem detergentTable_plain : (detergentTable (F := F)).Plain where
  title := literal_inert (by decide)
  ariaLabel := literal_inert (by decide)
  rows := by
    simp only [detergentTable, List.forall_mem_cons, List.not_mem_nil, IsEmpty.forall_iff,
      implies_true, and_true]
    exact ⟨strField_plain (by decide), strField_plain (by decide), strField_plain (by decide),
      boolField_plain (by decide), arrayLenField_plain (by decide)⟩

end Tables

section Samples

def zeros : ℕ → List Char
  | 0 => []
  | n + 1 => '0' :: zeros n

theorem zeros_inert (n : ℕ) : (zeros n).all inert := by
  induction n with
  | zero => rfl
  | succ n ih => exact ih

/-- Decimals of whole numbers from zero on. -/
def wholeNumber : ℕ → ℕ → String
  | 0, x => toString x
  | n + 1, x => toString x ++ String.ofList ('.' :: zeros (n + 1))

def samplePlatform : Platform ℕ where
  toUppercase c := [c.toUpper]
  isUppercase := Char.isUpper
  isNumeric := Char.isDigit
  ofInt := Int.toNat
  atLeastTen x := 10 ≤ x
  display x := wholeNumber 1 x
  fixed := wholeNumber
  minutes t := toString t.toNat
  qrCode _ := none
  fixed_inert n x := by
    cases n with
    | zero => exact toString_inert x
    | succ n => exact (toString_inert x).append (literal_inert (zeros_inert n))
  minutes_inert t := toString_inert t.toNat

def namedCoat (name : String) : Value ℕ :=
  .object [("productGroupData", .object [("countryOfOrigin", .string name),
    ("productGroup", .string "textile"), ("washes", .string name)]), ("productName", .string name)]

end Samples

section Holes

theorem fibreSegPieces_holes : holes .text fibreSegPieces =
    [.doubleQuoted, .doubleQuoted, .doubleQuoted, .doubleQuoted, .doubleQuoted,
     .doubleQuoted, .text, .text] := by
  unfold fibreSegPieces
  repeat rw [holes_ofList]
  rw [holes]
  decide

theorem legendItemPieces_holes : holes .text legendItemPieces =
    [.doubleQuoted, .text, .text, .text] := by
  unfold legendItemPieces
  repeat rw [holes_ofList]
  rw [holes]
  decide +kernel

theorem fibreBarPieces_holes : holes .text fibreBarPieces =
    [.text, .text] := by
  unfold fibreBarPieces
  repeat rw [holes_ofList]
  rw [holes]
  decide

theorem legendPieces_holes : holes .text legendPieces =
    [.text, .text] := by
  unfold legendPieces
  repeat rw [holes_ofList]
  rw [holes]
  decide

theorem textilePieces_holes : holes .text textilePieces =
    [.text, .text, .text, .text, .text, .text, .text] := by
  unfold textilePieces
  repeat rw [holes_ofList]
  rw [holes]
  decide +kernel

theorem remainderRowPieces_holes : holes .text remainderRowPieces =
    [.text, .text, .text] := by
  unfold remainderRowPieces
  repeat rw [holes_ofList]
  rw [holes]
  decide

theorem rectPieces_holes : holes .text rectPieces =
    [.doubleQuoted, .doubleQuoted, .doubleQuoted, .doubleQuoted, .text] := by
  unfold rectPieces
  repeat rw [holes_ofList]
  rw [holes]
  decide

theorem remainderPieces_holes : holes .text remainderPieces =
    [.text, .text] := by
  unfold remainderPieces
  repeat rw [holes_ofList]
  rw [holes]
  decide

theorem bannerPieces_holes : holes .text bannerPieces =
    [.text, .text, .text] := by
  unfold bannerPieces
  repeat rw [holes_ofList]
  rw [holes]
  decide +kernel

theorem svgPieces_holes : holes .text svgPieces =
    [.doubleQuoted, .doubleQuoted, .text, .doubleQuoted, .doubleQuoted, .text, .text] := by
  unfold svgPieces
  repeat rw [holes_ofList]
  rw [holes]
  decide

theorem pagePieces_holes : holes .text pagePieces =
    [.doubleQuoted, .doubleQuoted, .doubleQuoted, .text, .text, .text, .doubleQuoted,
     .doubleQuoted, .text, .text, .text, .text, .text, .text, .text, .doubleQuoted,
     .doubleQuoted, .text] := by
  unfold pagePieces
  repeat rw [holes_ofList]
  rw [holes]
  decide +kernel

end Holes

section SameMarkup

variable {F : Type} {platform : Platform F} {sd sd' p p' : Value F} {s t : String}

theorem tableRow_same {label label' cell cell' : String} (hlabel : Inert label)
    (hlabel' : Inert label') (hcell : Inert cell) (hcell' : Inert cell') :
    SameMarkup .text (tableRow label cell) (tableRow label' cell') := by
  apply SameMarkup.format
  repeat rw [holes_ofList]
  exact ⟨hlabel.same hlabel' (by decide), hcell.same hcell' (by decide), rfl⟩

theorem Table.Plain.same {table : Table F} (h : table.Plain) (sd sd' : Value F) :
    SameMarkup .text (table.build sd) (table.build sd') := by
  apply SameMarkup.format
  repeat rw [holes_ofList]
  refine ⟨h.title.same h.title (by decide), h.ariaLabel.same h.ariaLabel (by decide), ?_, rfl⟩
  refine SameMarkup.join (by simp) ?_
  intro a ha b hb
  obtain ⟨row, hrow, rfl⟩ := List.mem_map.mp ha
  obtain ⟨row', hrow', rfl⟩ := List.mem_map.mp hb
  exact tableRow_same (h.rows row hrow).1 (h.rows row' hrow').1 ((h.rows row hrow).2 sd)
    ((h.rows row' hrow').2 sd')

theorem fibreColours_inert : ∀ colour ∈ fibreColours, Inert colour := by
  simp only [fibreColours, List.forall_mem_cons, List.not_mem_nil, IsEmpty.forall_iff,
    implies_true, and_true]
  refine ⟨?_, ?_, ?_, ?_, ?_, ?_, ?_, ?_, ?_, ?_⟩
  all_goals exact literal_inert (by decide)

theorem fibreColour_inert (i : ℕ) : Inert (fibreColour i) := by
  have hlt : i % fibreColours.length < fibreColours.length := Nat.mod_lt i (by decide)
  rw [fibreColour, List.getD_eq_getElem?_getD, List.getElem?_eq_getElem hlt, Option.getD_some]
  exact fibreColours_inert _ (List.getElem_mem hlt)

theorem fibreSeg_same {i j : ℕ} {x y : String × F} :
    SameMarkup .text (fibreSeg platform i x) (fibreSeg platform j y) := by
  have hlabel : ∀ x : F,
      Inert (if platform.atLeastTen x then platform.fixed 0 x ++ "%" else "") := by
    intro x
    split_ifs
    · exact (platform.fixed_inert 0 x).append (literal_inert (by decide))
    · exact literal_inert (by decide)
  have hname := (esc_inert (s := x.1)).same (esc_inert (s := y.1)) (m := .doubleQuoted) (by decide)
  have hpct := (platform.fixed_inert 1 x.2).same (platform.fixed_inert 1 y.2)
    (m := .doubleQuoted) (by decide)
  have hcolour := (fibreColour_inert i).same (fibreColour_inert j) (m := .doubleQuoted) (by decide)
  unfold fibreSeg
  apply SameMarkup.format
  rw [fibreSegPieces_holes]
  exact ⟨hpct, hcolour, hname, hpct, hname, hpct, (hlabel x.2).same (hlabel y.2) (by decide), rfl⟩

theorem legendItem_same {i j : ℕ} {x y : String × F} :
    SameMarkup .text (legendItem platform i x) (legendItem platform j y) := by
  unfold legendItem
  apply SameMarkup.format
  rw [legendItemPieces_holes]
  exact ⟨(fibreColour_inert i).same (fibreColour_inert j) (by decide),
    esc_inert.same esc_inert (by decide),
    (platform.fixed_inert 1 x.2).same (platform.fixed_inert 1 y.2) (by decide), rfl⟩

theorem mapIdx_same {α : Type} {f : ℕ → α → String} {xs ys : List α}
    (hlength : xs.length = ys.length)
    (h : ∀ i x j y, SameMarkup .text (f i x) (f j y)) :
    SameMarkup .text (String.join (xs.mapIdx f)) (String.join (ys.mapIdx f)) := by
  refine SameMarkup.join (by simpa using hlength) ?_
  intro a ha b hb
  obtain ⟨i, hi, rfl⟩ := List.mem_mapIdx.mp ha
  obtain ⟨j, hj, rfl⟩ := List.mem_mapIdx.mp hb
  exact h i _ j _

theorem buildFibreBar_same {xs ys : List (String × F)} (h : xs.length = ys.length) :
    SameMarkup .text (buildFibreBar platform xs) (buildFibreBar platform ys) := by
  unfold buildFibreBar
  by_cases hxs : xs = []
  · obtain rfl : ys = [] := by simpa [hxs] using h.symm
    rw [hxs]
    exact SameMarkup.nil
  · have hys : ys ≠ [] := by rintro rfl; exact hxs (List.length_eq_zero_iff.mp h)
    simp only [List.isEmpty_iff, hxs, hys, ↓reduceIte]
    apply SameMarkup.format
    rw [fibreBarPieces_holes]
    exact ⟨mapIdx_same h fun i x j y => fibreSeg_same, rfl⟩

theorem buildFibreLegend_same {xs ys : List (String × F)} (h : xs.length = ys.length) :
    SameMarkup .text (buildFibreLegend platform xs) (buildFibreLegend platform ys) := by
  unfold buildFibreLegend
  by_cases hxs : xs = []
  · obtain rfl : ys = [] := by simpa [hxs] using h.symm
    rw [hxs]
    exact SameMarkup.nil
  · have hys : ys ≠ [] := by rintro rfl; exact hxs (List.length_eq_zero_iff.mp h)
    simp only [List.isEmpty_iff, hxs, hys, ↓reduceIte]
    apply SameMarkup.format
    rw [legendPieces_holes]
    exact ⟨mapIdx_same h fun i x j y => legendItem_same, rfl⟩

theorem buildTextile_same (h : (fibresOf platform sd).length = (fibresOf platform sd').length) :
    SameMarkup .text (buildTextile platform sd) (buildTextile platform sd') := by
  have hrecycled : ∀ sd, Inert (f64Field platform "recycledContentPct" "-" (percent platform) sd) :=
    fun sd => getD_inert (literal_inert (by decide)) fun x =>
      (platform.fixed_inert 1 x).append (literal_inert (by decide))
  unfold buildTextile
  apply SameMarkup.format
  rw [textilePieces_holes]
  exact ⟨esc_inert.same esc_inert (by decide), esc_inert.same esc_inert (by decide),
    esc_inert.same esc_inert (by decide), (hrecycled sd).same (hrecycled sd') (by decide),
    buildFibreBar_same h, buildFibreLegend_same h, rfl⟩

theorem remainderRow_same {key key' : String} {v v' : Value F} :
    SameMarkup .text (remainderRow platform key v) (remainderRow platform key' v') := by
  unfold remainderRow
  apply SameMarkup.format
  rw [remainderRowPieces_holes]
  exact ⟨esc_inert.same esc_inert (by decide),
    (renderValue_inert v).same (renderValue_inert v') (by decide), rfl⟩

theorem rect_same {width width' i j : ℕ} : SameMarkup .text (rect width i) (rect width' j) := by
  unfold rect
  apply SameMarkup.format
  rw [rectPieces_holes]
  exact ⟨(toString_inert _).same (toString_inert _) (by decide),
    (toString_inert _).same (toString_inert _) (by decide),
    (toString_inert _).same (toString_inert _) (by decide),
    (toString_inert _).same (toString_inert _) (by decide), rfl⟩

def remaining (keys : List String) (p : Value F) : List (String × Value F) :=
  (((p.get "productGroupData").bind Value.asObject).map (remainderMembers keys)).getD []

def SnapshotNotice.isLive : SnapshotNotice → Bool
  | .live => true
  | .snapshot _ _ => false

structure Shape where
  productGroup : String
  hasData : Bool
  fibres : ℕ
  remainder : ℕ
  /-- The dark modules of the QR symbol, if there is one. -/
  modules : Option ℕ
  deriving DecidableEq, Repr

def shape (platform : Platform F) (p : Value F) : Shape where
  productGroup := productGroup p
  hasData := (p.get "productGroupData").isSome
  fibres := (((p.get "productGroupData").map (fibresOf platform)).getD []).length
  remainder := (remaining (renderedKeys (productGroup p)) p).length
  modules := ((carrierUri p).bind platform.qrCode).map fun symbol => (darkModules symbol.2).length

theorem ofData_same {build : Value F → String}
    (hdata : (p.get "productGroupData").isSome = (p'.get "productGroupData").isSome)
    (h : ∀ sd ∈ p.get "productGroupData", ∀ sd' ∈ p'.get "productGroupData",
      SameMarkup .text (build sd) (build sd')) :
    SameMarkup .text (ofData build p) (ofData build p') := by
  unfold ofData
  cases hp : p.get "productGroupData" with
  | none =>
    obtain hp' : p'.get "productGroupData" = none := by simpa [hp] using hdata
    rw [hp']
    exact SameMarkup.nil
  | some sd =>
    obtain ⟨sd', hp'⟩ := Option.isSome_iff_exists.mp (by simpa [hp] using hdata.symm)
    rw [hp']
    exact h sd hp sd' hp'

theorem curatedSection_same {group : String}
    (hdata : (p.get "productGroupData").isSome = (p'.get "productGroupData").isSome)
    (hfibres : (((p.get "productGroupData").map (fibresOf platform)).getD []).length =
      (((p'.get "productGroupData").map (fibresOf platform)).getD []).length) :
    SameMarkup .text (curatedSection platform group p) (curatedSection platform group p') := by
  have htable : ∀ {table : Table F}, table.Plain →
      SameMarkup .text (ofData table.build p) (ofData table.build p') :=
    fun h => ofData_same hdata fun sd _ sd' _ => h.same sd sd'
  have htextile : SameMarkup .text (buildTextileSection platform p)
      (buildTextileSection platform p') := by
    refine ofData_same hdata ?_
    intro sd hsd sd' hsd'
    rw [Option.mem_def] at hsd hsd'
    rw [hsd, hsd'] at hfibres
    exact buildTextile_same hfibres
  unfold curatedSection
  split
  · exact htable batteryTable_plain
  · exact htextile
  · exact htextile
  · exact htable electronicsTable_plain
  · exact htable steelTable_plain
  · exact htable constructionTable_plain
  · exact htable tyreTable_plain
  · exact htable toyTable_plain
  · exact htable aluminiumTable_plain
  · exact htable furnitureTable_plain
  · exact htable detergentTable_plain
  · exact SameMarkup.nil

theorem remainderRow_ne {key : String} {v : Value F} : remainderRow platform key v ≠ "" := by
  intro h
  have hlength := congrArg String.length h
  simp [remainderRow, remainderRowPieces, format] at hlength

theorem rows_isEmpty {members : List (String × Value F)} :
    (String.join (members.map fun m => remainderRow platform m.1 m.2)).isEmpty =
      members.isEmpty := by
  cases members with
  | nil => rfl
  | cons m members =>
    rw [List.isEmpty_cons, List.map_cons, String.join_cons, Bool.eq_false_iff]
    simp [remainderRow_ne]

theorem buildRemainderSection_eq {keys : List String} :
    buildRemainderSection platform p keys = if (remaining keys p).isEmpty then "" else
      format remainderPieces [String.join ((remaining keys p).map fun m =>
        remainderRow platform m.1 m.2)] := by
  unfold buildRemainderSection remaining
  cases (p.get "productGroupData").bind Value.asObject with
  | none => rfl
  | some members => simp only [rows_isEmpty, Option.map_some, Option.getD_some]

theorem buildRemainderSection_same {keys : List String}
    (h : (remaining keys p).length = (remaining keys p').length) :
    SameMarkup .text (buildRemainderSection platform p keys)
      (buildRemainderSection platform p' keys) := by
  rw [buildRemainderSection_eq, buildRemainderSection_eq]
  have hempty : (remaining keys p').isEmpty = (remaining keys p).isEmpty := by
    rw [Bool.eq_iff_iff, List.isEmpty_iff_length_eq_zero, List.isEmpty_iff_length_eq_zero, h]
  rw [hempty]
  split
  · exact SameMarkup.nil
  · apply SameMarkup.format
    rw [remainderPieces_holes]
    refine ⟨SameMarkup.join (by simpa using h) ?_, rfl⟩
    intro a ha b hb
    obtain ⟨m, -, rfl⟩ := List.mem_map.mp ha
    obtain ⟨m', -, rfl⟩ := List.mem_map.mp hb
    exact remainderRow_same

theorem buildQrSvg_same
    (h : (platform.qrCode s).map (fun symbol => (darkModules symbol.2).length) =
      (platform.qrCode t).map fun symbol => (darkModules symbol.2).length) :
    SameMarkup .text (buildQrSvg platform s) (buildQrSvg platform t) := by
  unfold buildQrSvg
  cases hs : platform.qrCode s with
  | none =>
    obtain ht : platform.qrCode t = none := by simpa [hs] using h.symm
    rw [ht]
    exact SameMarkup.nil
  | some symbol =>
    rw [hs, Option.map_some] at h
    obtain ⟨symbol', ht, hlength⟩ := Option.map_eq_some_iff.mp h.symm
    rw [ht]
    have htotal := fun k : ℕ => (toString_inert ((symbol.1 + k) * moduleSize)).same
      (toString_inert ((symbol'.1 + k) * moduleSize)) (m := .doubleQuoted) (by decide)
    apply SameMarkup.format
    rw [svgPieces_holes]
    refine ⟨htotal _, htotal _, esc_inert.same esc_inert (by decide), htotal _, htotal _, ?_, rfl⟩
    refine SameMarkup.join (by simpa using hlength.symm) ?_
    intro a ha b hb
    obtain ⟨i, -, rfl⟩ := List.mem_map.mp ha
    obtain ⟨j, -, rfl⟩ := List.mem_map.mp hb
    exact rect_same

theorem qr_same (h : ((carrierUri p).bind platform.qrCode).map
      (fun symbol => (darkModules symbol.2).length) =
      ((carrierUri p').bind platform.qrCode).map fun symbol => (darkModules symbol.2).length) :
    SameMarkup .text (((carrierUri p).map (buildQrSvg platform)).getD "")
      (((carrierUri p').map (buildQrSvg platform)).getD "") := by
  have hnone : ∀ uri, platform.qrCode uri = none → buildQrSvg platform uri = "" := by
    intro uri huri
    simp [buildQrSvg, huri]
  cases hp : carrierUri p with
  | none =>
    cases hp' : carrierUri p' with
    | none => exact SameMarkup.nil
    | some uri' =>
      have huri : platform.qrCode uri' = none := by simpa [hp, hp'] using h.symm
      simp only [Option.map_none, Option.getD_none, Option.map_some, Option.getD_some,
        hnone uri' huri]
      exact SameMarkup.nil
  | some uri =>
    cases hp' : carrierUri p' with
    | none =>
      have huri : platform.qrCode uri = none := by simpa [hp, hp'] using h
      simp only [Option.map_none, Option.getD_none, Option.map_some, Option.getD_some,
        hnone uri huri]
      exact SameMarkup.nil
    | some uri' =>
      rw [hp, hp'] at h
      exact buildQrSvg_same h

theorem bannerHtml_same {notice notice' : SnapshotNotice} (h : notice.isLive = notice'.isLive) :
    SameMarkup .text (bannerHtml platform notice) (bannerHtml platform notice') := by
  cases notice with
  | live =>
    cases notice' with
    | live => exact SameMarkup.nil
    | snapshot => cases h
  | snapshot asOf validUntil =>
    cases notice' with
    | live => cases h
    | snapshot asOf' validUntil' =>
      apply SameMarkup.format
      rw [bannerPieces_holes]
      exact ⟨(platform.minutes_inert _).same (platform.minutes_inert _) (by decide),
        (platform.minutes_inert _).same (platform.minutes_inert _) (by decide), rfl⟩

theorem trimEndSlashes_inert (h : Inert s) : Inert (trimEndSlashes s) := by
  rw [Inert, trimEndSlashes, String.toList_ofList, List.all_eq_true]
  intro c hc
  exact List.all_eq_true.mp h c ((List.rdropWhile_prefix _ _).subset hc)

/-- What a passport says decides no more of its page's markup than its shape does. -/
theorem same_shape_same_markup {dppId dppId' base base' : String}
    {notice notice' : SnapshotNotice} (hbase : Inert base) (hbase' : Inert base')
    (hnotice : notice.isLive = notice'.isLive) (hshape : shape platform p = shape platform p') :
    SameMarkup .text (renderPage platform dppId p base notice)
      (renderPage platform dppId' p' base' notice') := by
  obtain ⟨hgroup, hdata, hfibres, hremainder, hmodules⟩ := Shape.mk.inj hshape
  have hescaped : ∀ {m : Mode} {s t : String}, m ≠ .tag → SameMarkup m (esc s) (esc t) :=
    fun hm => esc_inert.same esc_inert hm
  have hurl : ∀ {base dppId : String}, Inert base →
      Inert (trimEndSlashes base ++ "/dpp/" ++ esc dppId) := fun h =>
    ((trimEndSlashes_inert h).append (literal_inert (by decide))).append esc_inert
  have hsection : SameMarkup .text (buildProductGroupSection platform p)
      (buildProductGroupSection platform p') := by
    unfold buildProductGroupSection
    rw [← hgroup] at hremainder ⊢
    have hbreak : Inert "\n" := literal_inert (by decide)
    exact ((curatedSection_same hdata hfibres).append (hbreak.same hbreak (by decide))).append
      (buildRemainderSection_same hremainder)
  unfold renderPage
  apply SameMarkup.format
  rw [pagePieces_holes]
  exact ⟨hescaped (by decide), hescaped (by decide), (hurl hbase).same (hurl hbase') (by decide),
    hescaped (by decide), bannerHtml_same hnotice, hescaped (by decide), hescaped (by decide),
    hescaped (by decide), hescaped (by decide), hescaped (by decide), hescaped (by decide),
    hescaped (by decide), hescaped (by decide), hsection, qr_same hmodules,
    hescaped (by decide), hescaped (by decide), rfl⟩

theorem hostile_name_same_markup :
    SameMarkup .text
      (renderPage samplePlatform "1" (namedCoat "\"><script>alert(1)</script>") "https://id" .live)
      (renderPage samplePlatform "1" (namedCoat "coat") "https://id" .live) :=
  same_shape_same_markup (literal_inert (by decide)) (literal_inert (by decide)) rfl
    (by decide +kernel)

end SameMarkup

end RenderedPages
