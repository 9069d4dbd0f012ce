import StackLexer.Unicode.CharSet
import StackLexer.Text.Count

namespace StackLexer

-- The general category of a code point in version 16 of the Unicode Character Database.
inductive Category where
  | uppercaseLetter | lowercaseLetter | titlecaseLetter | modifierLetter | otherLetter
  | nonspacingMark | spacingMark | enclosingMark | decimalNumber | letterNumber | otherNumber
  | connectorPunctuation | dashPunctuation | openPunctuation | closePunctuation
  | initialPunctuation | finalPunctuation | otherPunctuation | mathSymbol | currencySymbol
  | modifierSymbol | otherSymbol | spaceSeparator | lineSeparator | paragraphSeparator | control
  | format | surrogate | privateUse | unassigned
deriving DecidableEq, Repr

namespace Category

-- The letter that stands for a category in the table.
def ofLetter? : Char → Option Category
  | 'U' => some .uppercaseLetter
  | 'L' => some .lowercaseLetter
  | 'T' => some .titlecaseLetter
  | 'M' => some .modifierLetter
  | 'O' => some .otherLetter
  | 'N' => some .nonspacingMark
  | 'C' => some .spacingMark
  | 'E' => some .enclosingMark
  | 'D' => some .decimalNumber
  | 'R' => some .letterNumber
  | 'B' => some .otherNumber
  | 'K' => some .connectorPunctuation
  | 'H' => some .dashPunctuation
  | 'S' => some .openPunctuation
  | 'P' => some .closePunctuation
  | 'I' => some .initialPunctuation
  | 'F' => some .finalPunctuation
  | 'Q' => some .otherPunctuation
  | '+' => some .mathSymbol
  | '$' => some .currencySymbol
  | '^' => some .modifierSymbol
  | '*' => some .otherSymbol
  | 'Z' => some .spaceSeparator
  | 'V' => some .lineSeparator
  | 'W' => some .paragraphSeparator
  | 'X' => some .control
  | 'Y' => some .format
  | 'G' => some .surrogate
  | 'A' => some .privateUse
  | 'u' => some .unassigned
  | _ => none

def abbreviation : Category → String
  | .uppercaseLetter => "lu"
  | .lowercaseLetter => "ll"
  | .titlecaseLetter => "lt"
  | .modifierLetter => "lm"
  | .otherLetter => "lo"
  | .nonspacingMark => "mn"
  | .spacingMark => "mc"
  | .enclosingMark => "me"
  | .decimalNumber => "nd"
  | .letterNumber => "nl"
  | .otherNumber => "no"
  | .connectorPunctuation => "pc"
  | .dashPunctuation => "pd"
  | .openPunctuation => "ps"
  | .closePunctuation => "pe"
  | .initialPunctuation => "pi"
  | .finalPunctuation => "pf"
  | .otherPunctuation => "po"
  | .mathSymbol => "sm"
  | .currencySymbol => "sc"
  | .modifierSymbol => "sk"
  | .otherSymbol => "so"
  | .spaceSeparator => "zs"
  | .lineSeparator => "zl"
  | .paragraphSeparator => "zp"
  | .control => "cc"
  | .format => "cf"
  | .surrogate => "cs"
  | .privateUse => "co"
  | .unassigned => "cn"

def all : List Category :=
  [.uppercaseLetter, .lowercaseLetter, .titlecaseLetter, .modifierLetter, .otherLetter,
   .nonspacingMark, .spacingMark, .enclosingMark, .decimalNumber, .letterNumber, .otherNumber,
   .connectorPunctuation, .dashPunctuation, .openPunctuation, .closePunctuation,
   .initialPunctuation, .finalPunctuation, .otherPunctuation, .mathSymbol, .currencySymbol,
   .modifierSymbol, .otherSymbol, .spaceSeparator, .lineSeparator, .paragraphSeparator, .control,
   .format, .surrogate, .privateUse, .unassigned]

-- Reads the runs; `current` is the run whose length is being read.
def readRuns (current : Category) (length : Nat) : Text → List (Category × Nat)
  | [] => [(current, max length 1)]
  | c :: rest => match ofLetter? c with
    | some next => (current, max length 1) :: readRuns next 0 rest
    | none => readRuns current (length * 10 + (Text.digit? 10 c).getD 0) rest

-- The categories in the order of the code points. A run is a letter that `ofLetter?` reads, and the
-- length of the run if it is more than one.
def table : List String := [
  "X32ZQ3$Q3SPQ+QHQ2D10Q2+3Q2U26SQP^K^L26S+P+X33ZQ$4*Q^*OI+Y*^*+B2^LQ2^BOFB3QU23+U7L24+L8ULULUL",
  "ULULULULULULULULULULULULULULULULULULULULULULULULUL2ULULULULULULULUL2ULULULULULULULULULULULUL",
  "ULULULULULULULULULULULU2LULUL3U2LULU2LU3L2U4LU2LU3L3U2LU2LULULU2LUL2ULU2LU3LULU2L2OUL3O4UTLU",
  "TLUTLULULULULULULULUL2ULULULULULULULULUL2UTLULU3LULULULULULULULULULULULULULULULULULULULULULU",
  "LULULULULULULUL7U2LU2L2ULU4LULULULUL69OL27M18^4M12^14M5^7M^M^17N112ULULM^ULu2ML3QUu4^2UQU3uU",
  "uU2LU17uU9L35UL2U3L3ULULULULULULULULULULULUL5UL+ULU2L2U51L48ULULULULULULULULULULULULULULULUL",
  "UL*N5E2ULULULULULULULULULULULULULULULULULULULULULULULULULULULU2LULULULULULUL2ULULULULULULULU",
  "LULULULULULULULULULULULULULULULULULULULULULULULULULULULULULULULULULULULULULULULULuU38u2MQ6",
  "L41QHu2*2$uN45HNQN2QN2QNu8O27u4O4Q2u11Y6+3Q2$Q2*2N11QYQ3O32MO10N21D10Q4O2NO99QON7Y*N6M2N2*N4",
  "O2D10O3*2OQ14uYONO30N27u2O89N11Ou14D10O33N9M2*Q3Mu2N$2O22N4MN9MN3MN5u2Q15uO25N3u2QuO11u5O24^",
  "O6uY2u5N9O41MN24YN32CO54NCNOC3N8C4NC2ON7O10N2Q2D10QMO15NC2uO8u2O2u2O22uO7uOu3O4u2NOC3N4u2C2",
  "u2C2NOu8Cu4O2uO3N2u2D10O2$2B6*$OQNu2N2CuO6u4O2u2O22uO7uO2uO2uO2u2NuC3N2u4N2u2N3u3Nu7O4uOu7",
  "D10N2O3NQu10N2CuO9uO3uO22uO7uO2uO5u2NOC3N5uN2CuC2Nu2Ou15O2N2u2D10Q$u7ON6uNC2uO8u2O2u2O22uO7u",
  "O2uO5u2NOCNCN4u2C2u2C2Nu7N2Cu4O2uO3N2u2D10*OB6u10NOuO6u3O3uO4u3O2uOuO2u3O2u3O3u3O12u4C2NC2u3",
  "C3uC3Nu2Ou6Cu14D10B3*6$*u5NC3NO8uO3uO23uO16u2NON3C4uN3uN4u7N2uO3u2Ou2O2N2u2D10u7QB7*ONC2QO8u",
  "O3uO23uO10uO5u2NOCNC5uNC2uC2N2u7C2u6O2uO2N2u2D10uO2Cu12N2C2O9uO3uO41N2OC3N4uC3uC3NO*u4O3CB7",
  "O3N2u2D10B9*O6uNC2uO18u3O24uO9uOu2O7u3Nu4C3N3uNuC8u6D10u2C2Qu12O48NO2N7u4$O6MN8QD10Q2u37O2uO",
  "uO5uO24uOuO10NO2N9Ou2O5uMuN7uD10u2O4u32O*3Q15*Q*3N2*6D10B10*N*N*NSPSPC2O8uO36u4N14CN5QN2O5",
  "N11uN36u*8N*6u*2Q5*4Q2u37O43C2N4CN6CN2C2N2OD10Q6O6C2N2O4N3OC3O2C7O3N4O13NC2N2C6NOCD10C3N*2",
  "U38uUu5Uu2L43QML3O329uO4u2O7uOuO4u2O41uO4u2O33uO4u2O7uOuO4u2O15uO57uO4u2O67u2N3Q9B20u3O16*10",
  "u6U86u2L6u2HO620*QO17ZO26SPu3O75Q3R3O8u7O18N3Cu9O19N2CQ2u9O18N2u12O13uO3uN2u12O52N2CN7C8NC2",
  "N11Q3MQ3$ONu2D10u6B10u6Q6HQ4N3YND10u6O35MO53u7O5N2O34NOu5O70u10O31uN3C4N2C3u4C2NC6N3u4*u3Q2",
  "D10O30u2O5u11O44u4O26u6D10Bu3*34O23N2C2Nu2Q2O53CNCN7uNCNC2N8C6N10u2ND10u6D10u6Q7MQ6u2N14EN16",
  "u49N4CO47NCN5CNC5NC2O8uQ2D10Q7*10N9*9Q3N2CO30CN4C2N2CN3O2D10O44NCN2C3NCN3C2u8Q4O36C8N8C2N2u3",
  "Q5D10u3O3D10O30M6Q2L9ULu5U43u2U3Q8u8N3QN13CN7O4NO6NO2CN2Ou5L44M63L13ML34M37N64ULULULULULULUL",
  "ULULULULULULULULULULULULULULULULULULULULULULULULULULULULULULULULULULULULULULULULULULULULULUL",
  "ULULULULULULULULULULULULULULULULULULULULULUL9ULULULULULULULULULULULULULULULULULULULULULULULU",
  "LULULULULULULULULULULULULULULULULULULULULULULULULUL9U8L6u2U6u2L8U8L8U8L6u2U6u2L8uUuUuUuUL8U8",
  "L14u2L8T8L8T8L8T8L5uL2U4T^L^3L3uL2U4T^3L4u2L2U4u^3L8U5^3u2L3uL2U4T^2uZ11Y5H6Q2IFSI2FSIQ8VWY5",
  "ZQ9IFQ4K2Q3+SPQ11+QKQ10ZY5uY10BMu2B6+3SPMB10+3SPuM13u3$33u15N13E4NE3N12u15*2U*4U*2LU3L2U3L*U",
  "*2+U5*6U*U*U*U4*LU4LO4L*2L2U2+5UL4*+*2L*B16R35ULR4B*2u4+5*5+2*4+*2+*2+*7+*31+2*2+*+*31+268*8",
  "SPSP*20+2*7SP*81+*30+25*40+6*72u22*11u21B60*78B22*183+*9+*54+8*111+*248SPSPSPSPSPSPSPB30*44",
  "+5SP+31SPSPSPSPSP+16*256+131SPSPSPSPSPSPSPSPSPSPSP+63SPSP+32SP+258*48+21*2+6*39u2*32u*105U48",
  "L48ULU3L2ULULULU4LUL2UL6M2U3LULULULULULULULULULULULULULULULULULULULULULULULULULULULULULULULU",
  "LULULULULULULULULULULULULULULULULUL2*6ULULN3ULu5Q4BQ2L38uLu5Lu2O56u7MQu14NO23u9O7uO7uO7uO7u",
  "O7uO7uO7uO7uN32Q2IFIFQ3IFQIFQ9HQ2HQIFQ2IFSPSPSPSPQ5MQ10H2Q4HQSQ13*2Q3SPSPSPSPHu34*26u*89u12",
  "*214u26*16ZQ3*MORSPSPSPSPSP*2SPSPSPSPHSP2*R9N4C2HM5*2R3MOQ*2uO86u2N2^2M2OHO90QM3Ou5O43uO94u",
  "*2B4*10O32*38u9*O16*31uB10*30B8*B15*32B10*39B15*320O6592*64O21013MO1143u3*55u9O40M6Q2O268MQ3",
  "O16D10O2u20ULULULULULULULULULULULULULULULULULULULULULULULONE3QN10QMULULULULULULULULULULULULU",
  "LULM2N2O70R10N2Q6u8^23M9^2ULULULULULULUL3ULULULULULULULULULULULULULULULULULULULULULULULULULU",
  "LULULULULULML8ULULU2LULULULULM^2ULULOULUL3ULULULULULULULULULULU5LU5LULULULULULULULU4LULU2Lu2",
  "ULuLuLULULULUu21M3ULOM2LO7NO3NO4NO23C2N2C*4Nu3B6*2$*u6O52Q4u8C2O50C16N2u8Q2D10u6N18O6Q3OQO2N",
  "D10O28N8Q2O23N11C2u11QO29u3N3CO47NC2N4C2N2C3Q13uMD10u4Q2O5NMO9D10O5uO41N6C2N2C2N2u9O3NO8NCu2",
  "D10u2Q4O16MO6*3OCNCO50NON3O2N2O5N2ONOu24O2MQ2O11CN2C2Q2OM2CNu10O6u2O6u2O6u9O7uO7uL43^M4L9M^2",
  "u4L80O35C2NC2NC2QCNu2D10u6O11172u12O23u4O49u4G2048A6400O366u2O106u38L7u12L5u5ONO10+O13uO5uOu",
  "O2uO2uO108^17u16O363PS*16O64u2O54u7*u32O12$*3N16Q7SPQu6N16QH2K2SPSPSPSPSPSPSPSPQ2SPQ4K3Q3uQ4",
  "HSPSPSPQ3+H+3uQ$Q2u4O5uO135u2YuQ3$Q3SPQ+QHQ2D10Q2+3Q2U26SQP^K^L26S+P+SPQSPQ2O10MO45M2O31u3O6",
  "u2O6u2O6u2O3u3$2+^*$2u*+4*2u10Y3*2u2O12uO26uO19uO2uO15u2O14u34O123u5Q3u4B45u3*9R53B4*17B2*3u",
  "*13u3*u47*45Nu130O29u3O49u15NB27u4O32B4u9O20RO8Ru5O38N5u5O30uQO36u4O8QR5u42U40L40O78u2D10u6",
  "U36u4L36u4O40u8O52u11QU11uU15uU7uU2uL11uL15uL7uL2u3O52u12O311u9O22u10O8u24M6uM42uM9u69O6u2Ou",
  "O44uO2u3Ou2O23uQB8O23*2B7O31u8B9u48O19uO2u5B5O22B6u3QO26u5Qu64O56u4B2O2B16u2B46ON3uN2u5N4O4u",
  "O3uO29u2N3u4NB9u7Q9u7O29B2QO29B3u32O8*O28N2u4B5Q7u9O54u3Q7O22u2B8O19u5B8O18u7Q4u12B7u80O73",
  "u55U51u13L51u7B6O36N4u8D10u6D10O4MOU22u3N5HML22u8+2u208B31uO42uN2Hu2O2u16O3u55N4O29B10Ou8O22",
  "N11B4Q5u22O18N4Q4u38O21B7u20O23u9CNCO53N15Q7u4B20D10NO2N2Ou9N3CO45C3N4C2N2Q2YQ4Nu10Yu2O25u7",
  "D10u6N3O36N5CN8uD10Q4OC2Ou8O35NQ2Ou9N2CO48C3N9C2O4Q4N4QCND10OQOQ3uB20u11O18uO25C3N3C2NCN2Q6N",
  "O2Nu62O7uOuO4uO15uO10Qu6O47NC3N8u5D10u6N2C2uO8u2O2u2O22uO7uO2uO5uN2OC2NC4u2C2u2C3u2Ou6Cu5O5",
  "C2u2N7u3N5u11O10uOu2OuO38uOC3N6uCu2CuC4uC2NCNONOQ2uQ2u8N2u29O53C3N8C2N3CNO4Q5D10Q2uQNO3u30",
  "O48C3N6CNC4N2CN2O2QOu8D10u166O47C3N4u2C4N2CN2Q23O4N2u34O48C3N8C2NCN2Q3Ou11D10u6Q13u19O43NCN",
  "C2N6CNOQu6D10u6D20u28O27u2NCNC2N4CN5u4D10B2Q3*O7u185O44C3N9CN2Qu100U32L32D10B9u12O8u2Ou2O8u",
  "O2uO24C6uC2u2N2CNOCOCNQ3u9D10u70O8u2O39C3N4u2N2C4NOQOCu27ON10O40N6CON4Q8Nu8ON6C2N3O46N13CN2",
  "Q3OQ5u13O73u7Q10u182O33Qu14D10u6O9uO37CN7uN6CNOQ5u10D10B19u3Q2O30u2N22uCN7CN2CN2u73O7uO2uO38",
  "N6u3NuN2uN7ONu8D10u6O6uO2uO32C5uN2uC2NCNOu7D10u310O19N2C2Q2u7N2OCO13uO34C2N5u3C2NCNQ13D10N",
  "u85Ou15B21*8$4*17u13QO922u102R111uQ5u11O196u2636O97Q2u13O1072Y16NO6N15u10O3995u5O583u6841O30",
  "N12C3N3D10u1734O569u7O31uD10u4Q2O79uD10u6O30u2N5Qu10O48N7Q5*4M4Q*u10D10uB7uO21u5O19u432M3O40",
  "M2Q3D10u198U32L32B23Q4u101O75u4NOC55u7N4M13u64M2QMNu11C2u14O6136u8O1238u41O10u8935M4uM7uM2u",
  "O291u15Ou29O3u2Ou14O4u8O396u2308O107u5O13u3O9u7O10u2*N2QY4u3932*240D10u6*436u76N46u2N23u9",
  "*116u60*246u10*39u2*60C2N3*3C6Y8N8*2N7*30N4*61u21*66N3*u122B20u12B20u12*87u9B25u135U26L26U26",
  "L7uL18U26L26UuU2u2Uu2U2u2U4uU8L4uLuL7uL11U26L26U2uU4u2U8uU7uL26U2uU4uU5uUu3U7uL26U26L26U26",
  "L26U26L26U26L26U26L26U26L28u2U25+L25+L6U25+L25+L6U25+L25+L6U25+L25+L6U25+L25+L6ULu2D50*512",
  "N55*4N50*8N*14N*2Q5u15N5uN15u1104L10OL20u6L6u213N7uN17u2N7uN2uN5u5M62u33Nu112O45u3N7M7u2D10",
  "u4O*u320O30Nu17O44N4D10u5$u464O27MN4D10u214O30N2OD10u4Qu480O7uO4uO2uO15uO197u2B9N7u41U34L34",
  "N7Mu4D10u4Q2u785B59*B3$B4u76B45*B15u194O4uO27uO2uOu2OuO10uO4uOuOu6Ou4OuOuOuO3uO2uOu2OuOuOuOu",
  "OuO2uOu2O4uO7uO4uO4uOuO10uO17u5O3uO5uO17u52+2u270*44u4*100u12*15u2*15u*15u*37u10B13*161u56",
  "*29u13*44u4*9u7*2u14*6u154*251^5*728u4*17u3*13u3*119u4*95u6*12u4*u15*12u4*56u8*10u6*40u8*30",
  "u2*12u4*2u62*340u12*14u2*13u3*10u5*56u7*15u2*11u6*9u7*147u*92D10u1030O42720u32O4154u6O222u2",
  "O5762u14O7473u15O622u2466O542u1506O4939u5O4192u711761Yu30Y96u128N240u65040A65534u2A65534u2"]

-- The categories of all code points, as runs from code point 0 on.
def runs : List (Category × Nat) :=
  match (table.map String.toList).flatten with
  | [] => []
  | c :: rest => readRuns ((ofLetter? c).getD .unassigned) 0 rest

-- The ranges of the runs whose category passes the test, from the code point `start` on.
def select (test : Category → Bool) : Nat → List (Category × Nat) → List CharRange
  | _, [] => []
  | start, (category, length) :: rest =>
      if test category then ⟨start, start + length - 1⟩ :: select test (start + length) rest
      else select test (start + length) rest

def setOf (test : Category → Bool) : CharSet := ⟨CharSet.merge (select test 0 runs)⟩

end Category

end StackLexer
