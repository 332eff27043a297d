/-!
# Tags to harvest

## Main definitions

- `Harvest.tagRange`: the tags with numbers in a range
- `Harvest.bibliographicTags`, `Harvest.holdingsTags`: the tags that have documentation
-/

namespace MarcLens.Harvest

/-- A number in at least three characters, filled up with zeros after the sign. -/
def paddedNumber (n : Int) : String :=
  let digits := n.natAbs.repr
  let sign := if n < 0 then "-" else ""
  sign ++ String.ofList (List.replicate (3 - sign.length - digits.length) '0') ++ digits

/-- The tags numbered from `first` to `last`. -/
def tagRange (first last : Int) : List String :=
  (List.range (last + 1 - first).toNat).map fun (i : Nat) => paddedNumber (first + i)

/-- The documented tags of bibliographic records. -/
def bibliographicTags : List String :=
  ["001", "003", "005", "006", "007", "008", "010", "013", "015", "016", "017", "018", "020", "022",
   "024", "025", "026", "027", "028", "030", "031", "032", "033", "034", "035", "036", "037", "038",
   "040", "041", "042", "043", "044", "045", "046", "047", "048", "050", "051", "052", "055", "060",
   "061", "066", "070", "071", "072", "074", "080", "082", "083", "084", "085", "086", "088", "100",
   "110", "111", "130", "210", "222", "240", "242", "243", "245", "246", "247", "250", "254", "255",
   "256", "257", "258", "260", "261", "262", "263", "264", "270", "280", "285", "300", "306", "307",
   "310", "321", "336", "337", "338", "340", "342", "343", "344", "345", "346", "347", "348", "351",
   "352", "355", "357", "362", "363", "365", "366", "370", "377", "380", "381", "382", "383", "384",
   "385", "386", "388", "400", "410", "411", "440", "490", "500", "501", "502", "504", "505", "506",
   "507", "508", "510", "511", "513", "514", "515", "516", "518", "520", "521", "522", "524", "525",
   "526", "530", "533", "534", "535", "536", "538", "540", "541", "542", "544", "545", "546", "547",
   "550", "552", "555", "556", "561", "562", "563", "565", "567", "580", "581", "583", "584", "585",
   "586", "588", "600", "610", "611", "630", "647", "648", "650", "651", "653", "654", "655", "656",
   "657", "658", "662", "688", "700", "710", "711", "720", "730", "740", "751", "752", "753", "754",
   "760", "762", "765", "767", "770", "772", "773", "774", "775", "776", "777", "780", "785", "786",
   "787", "800", "810", "811", "830", "856", "857"]

/-- The documented tags of holdings records. -/
def holdingsTags : List String :=
  ["852", "853", "854", "855", "856", "857", "863", "864", "865", "866", "867", "868", "876", "877",
   "878"]

end MarcLens.Harvest
