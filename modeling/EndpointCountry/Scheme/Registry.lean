import EndpointCountry.Country

/-!
# Registered schemes

The identifier schemes of the network, each known by a name and by a four-digit number, with the
country that an identifier of the scheme belongs to.
-/

namespace EndpointCountry.Scheme

/-- A registered scheme. -/
structure Registration where
  name : String
  number : String
  country : Country

/-- The schemes that are in use across networks. -/
def international : List Registration := [
  ⟨"FR:SIRENE", "0002", .of 'F' 'R'⟩, ⟨"SE:ORGNR", "0007", .of 'S' 'E'⟩,
  ⟨"FR:SIRET", "0009", .of 'F' 'R'⟩, ⟨"FI:OVT", "0037", .of 'F' 'I'⟩,
  ⟨"DUNS", "0060", .of 'Z' 'Z'⟩, ⟨"DK:P", "0096", .of 'D' 'K'⟩, ⟨"IT:FTI", "0097", .of 'I' 'T'⟩,
  ⟨"NL:KVK", "0106", .of 'N' 'L'⟩, ⟨"NAL", "0130", .of 'Z' 'Z'⟩, ⟨"IT:SIA", "0135", .of 'I' 'T'⟩,
  ⟨"IT:SECETI", "0142", .of 'I' 'T'⟩, ⟨"AU:ABN", "0151", .of 'A' 'U'⟩,
  ⟨"CH:UIDB", "0183", .of 'C' 'H'⟩, ⟨"DIGST", "0184", .of 'D' 'K'⟩,
  ⟨"JP:SST", "0188", .of 'J' 'P'⟩, ⟨"NL:OINO", "0190", .of 'N' 'L'⟩,
  ⟨"EE:CC", "0191", .of 'E' 'E'⟩, ⟨"NO:ORG", "0192", .of 'N' 'O'⟩,
  ⟨"UBLBE", "0193", .of 'B' 'E'⟩, ⟨"SG:UEN", "0195", .of 'S' 'G'⟩,
  ⟨"IS:KTNR", "0196", .of 'I' 'S'⟩, ⟨"DK:ERST", "0198", .of 'D' 'K'⟩,
  ⟨"LEI", "0199", .of 'Z' 'Z'⟩, ⟨"LT:LEC", "0200", .of 'L' 'T'⟩,
  ⟨"IT:CUUO", "0201", .of 'I' 'T'⟩, ⟨"DE:LWID", "0204", .of 'D' 'E'⟩,
  ⟨"IT:COD", "0205", .of 'I' 'T'⟩, ⟨"BE:EN", "0208", .of 'B' 'E'⟩, ⟨"GS1", "0209", .of 'Z' 'Z'⟩,
  ⟨"IT:CFI", "0210", .of 'I' 'T'⟩, ⟨"IT:IVA", "0211", .of 'I' 'T'⟩,
  ⟨"FI:ORG", "0212", .of 'F' 'I'⟩, ⟨"FI:VAT", "0213", .of 'F' 'I'⟩,
  ⟨"FI:NSI", "0215", .of 'F' 'I'⟩, ⟨"FI:OVT2", "0216", .of 'F' 'I'⟩,
  ⟨"JP:IIN", "0221", .of 'J' 'P'⟩, ⟨"MY:EIF", "0230", .of 'M' 'Y'⟩]

/-- The schemes of this network, most of them for national tax numbers. -/
def network : List Registration := [
  ⟨"DK:CPR", "9901", .of 'D' 'K'⟩, ⟨"DK:CVR", "9902", .of 'D' 'K'⟩,
  ⟨"DK:SE", "9904", .of 'D' 'K'⟩, ⟨"DK:VANS", "9905", .of 'D' 'K'⟩,
  ⟨"IT:VAT", "9906", .of 'I' 'T'⟩, ⟨"IT:CF", "9907", .of 'I' 'T'⟩,
  ⟨"NO:ORGNR", "9908", .of 'N' 'O'⟩, ⟨"NO:VAT", "9909", .of 'N' 'O'⟩,
  ⟨"HU:VAT", "9910", .of 'H' 'U'⟩, ⟨"EU:REID", "9913", .of 'Z' 'Z'⟩,
  ⟨"AT:VAT", "9914", .of 'A' 'T'⟩, ⟨"AT:GOV", "9915", .of 'A' 'T'⟩,
  ⟨"AT:CID", "9916", .of 'A' 'T'⟩, ⟨"IS:KT", "9917", .of 'I' 'S'⟩, ⟨"IBAN", "9918", .of 'Z' 'Z'⟩,
  ⟨"AT:KUR", "9919", .of 'A' 'T'⟩, ⟨"ES:VAT", "9920", .of 'E' 'S'⟩,
  ⟨"IT:IPA", "9921", .of 'I' 'T'⟩, ⟨"AD:VAT", "9922", .of 'A' 'D'⟩,
  ⟨"AL:VAT", "9923", .of 'A' 'L'⟩, ⟨"BA:VAT", "9924", .of 'B' 'A'⟩,
  ⟨"BE:VAT", "9925", .of 'B' 'E'⟩, ⟨"BG:VAT", "9926", .of 'B' 'G'⟩,
  ⟨"CH:VAT", "9927", .of 'C' 'H'⟩, ⟨"CY:VAT", "9928", .of 'C' 'Y'⟩,
  ⟨"CZ:VAT", "9929", .of 'C' 'Z'⟩, ⟨"DE:VAT", "9930", .of 'D' 'E'⟩,
  ⟨"EE:VAT", "9931", .of 'E' 'E'⟩, ⟨"GB:VAT", "9932", .of 'G' 'B'⟩,
  ⟨"GR:VAT", "9933", .of 'G' 'R'⟩, ⟨"HR:VAT", "9934", .of 'H' 'R'⟩,
  ⟨"IE:VAT", "9935", .of 'I' 'E'⟩, ⟨"LI:VAT", "9936", .of 'L' 'I'⟩,
  ⟨"LT:VAT", "9937", .of 'L' 'T'⟩, ⟨"LU:VAT", "9938", .of 'L' 'U'⟩,
  ⟨"LV:VAT", "9939", .of 'L' 'V'⟩, ⟨"MC:VAT", "9940", .of 'M' 'C'⟩,
  ⟨"ME:VAT", "9941", .of 'M' 'E'⟩, ⟨"MK:VAT", "9942", .of 'M' 'K'⟩,
  ⟨"MT:VAT", "9943", .of 'M' 'T'⟩, ⟨"NL:VAT", "9944", .of 'N' 'L'⟩,
  ⟨"PL:VAT", "9945", .of 'P' 'L'⟩, ⟨"PT:VAT", "9946", .of 'P' 'T'⟩,
  ⟨"RO:VAT", "9947", .of 'R' 'O'⟩, ⟨"RS:VAT", "9948", .of 'R' 'S'⟩,
  ⟨"SI:VAT", "9949", .of 'S' 'I'⟩, ⟨"SK:VAT", "9950", .of 'S' 'K'⟩,
  ⟨"SM:VAT", "9951", .of 'S' 'M'⟩, ⟨"TR:VAT", "9952", .of 'T' 'R'⟩,
  ⟨"VA:VAT", "9953", .of 'V' 'A'⟩, ⟨"NL:OIN", "9954", .of 'N' 'L'⟩,
  ⟨"SE:VAT", "9955", .of 'S' 'E'⟩, ⟨"BE:CBE", "9956", .of 'B' 'E'⟩,
  ⟨"FR:VAT", "9957", .of 'F' 'R'⟩, ⟨"DE:LID", "9958", .of 'D' 'E'⟩,
  ⟨"US:EIN", "9959", .of 'U' 'S'⟩]

/-- Both spellings of every registered scheme, with its country. -/
def registered : List (String × Country) :=
  (international ++ network).flatMap fun r => [(r.name, r.country), (r.number, r.country)]

/-- The schemes whose values are global location numbers: those are placed by their digits. -/
def locationMarkers : List String := ["EAN", "GLN", "0088"]

/-- Location numbers that the prefix tables would place in the wrong country or in none. -/
def corrections : List (String × Country) := [("556577236401", .of 'D' 'K')]

end EndpointCountry.Scheme
