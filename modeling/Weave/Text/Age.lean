import Weave.Text.Breaks

/-! The version of Unicode in which a code point was assigned. -/

namespace Weave.Text

def versions : List (String × Nat × Nat) :=
  [("A", 1, 1), ("B", 2, 0), ("C", 2, 1), ("D", 3, 0), ("E", 3, 1), ("F", 3, 2), ("G", 4, 0),
  ("H", 4, 1), ("I", 5, 0), ("J", 5, 1), ("K", 5, 2), ("L", 6, 0), ("M", 6, 1), ("N", 6, 2),
  ("O", 6, 3), ("P", 7, 0), ("Q", 8, 0), ("R", 9, 0), ("S", 10, 0), ("T", 11, 0), ("U", 12, 0),
  ("V", 12, 1), ("W", 13, 0), ("X", 14, 0), ("Y", 15, 0), ("Z", 15, 1), ("a", 16, 0),
  ("b", 17, 0)]

def ageRuns : String := "
A502D4A30D8F1G1D18G3H11I14A89D5G2A47D1A10D5G17A70D9F1G8H5G3A2D1F13J4A2J2z2A1I3A1P1z4A7z1A1z1A20z1A44
J1A7D1F2A1D1A1D1A1D1A1D1A18E2F1G5H4D1A12D1A66D1A12D1A41J1D2F2D4A53F2A2F2A2F2I1A28D2A8H2A2I6F16I4J16
K2L2P8z1A38z2A7T1A39T1A1D1z2P2M1z1B17H1B13A10I1A9B1H3z8A27z4T1A5z11G4M1P1J5H1A1G9J5A1O1X1H1A1L1A26J5
A19D3G3H6L1A14F2A72D2A5D1A15D1A30G2A10D5G1D14z1D30G3D27z2G3H30J18D49F1z14I59z2T3K46z2K15z1L28z2L1z1
S11z5X31b1X2z5a1X8M1P1M11P6Q2X1R8W10X11T1R15Q1M27P1K1A3G1A53L2A18K1L1A5K1L2A25J2L5P1K2I2H1I2P1A3z1A8
z2A2z2A22z1A7z1A1z3A4z2A1G1A7z2A2z2A3H1z8A1z4A2z1A5z2A21K1S2T1z2G1A1G1z1A6z4A2z2A22z1A7z1A2z1A2z1A2
z2A1z1A5z4A2z2A3z3J1z7A4z1A1z7A15J1T1z10A3z1A7G1A1z1A3z1A22z1A7z1A2z1A5z2A10z1A3z1A3z2A1z15A1G3z2A10
M1G1z7Q1S6z1A3z1A8z2A2z2A22z1A7z1A2z1G1A4z2A8J1z2A2z2A3z7W1A2z4A2z1A3J2z2A11G1L6z10A2z1A6z3A3z1A4z3
A2z1A1z1A2z3A2z3A3z3A8H1A3z4A5z3A3z1A4z2J1z6A1z14H1A12G8z5P1A3T1A8z1A3z1A23z1A10P1A5z2X1J1A7z1A3z1A4
z7A2z1J2Q1z1b1X1z2A2J2z2A10z7U1J8R1P1A2T1A8z1A3z1A23z1A10z1A5z2G2A7z1A3z1A4z7A2z5b1X1A1z1A2I2z2A10z1
I2Y1z12S1P1A2W1A8z1A3z1A23L1A16L1S2J1A6J1z1A3z1A4L1R1z4R3A1R7Q1A2J2z2A10J6R3J7z1W1D2z1D18z3D24z1D9z1
D1z2D7z3D1z4D6z1D1z1D8z6P10z2D3z12A58z4A29z37A2z1A1z1U1A2U1A1z1U1A1U6A4U1A7U1A3z1A1z1A1U2A2U1A13U1A3
z2A5z1A1z1A6Y1z1A10z2A2M2z32B72z1B33D1J2z4B27L4B6D1B1z1B21D3B7D1B1D3z1D15z1J1D1H2J3K4L2z37D34J1D5J1
D2J1D7J3D4J6D26J64K4J2A38z1M1z5M1z2A39F2H2A1H1M3A90K5A68K5A82K6D7H1D63H1D1z1D4z2D7z1D1z1D4z2D39H1D1
z1D4z2D31H1D1z1D4z2D7z1D1z1D4z2D7H1D7z1D23H1D31H1D1z1D4z2D7H1D39H1D19z2L2H2D28z3H26z6D85Q1z2Q6z2K1
D630K9D29z3D81P8z7F13X1F7X1z9X1F23z9F20z12F13z1F3z1F2z12D93G1z2D10z6G10z6D15X1D10z6D88T1z7D42J1z5K70
z10G29P2z1G12z4G12z4G1z3G42z2G5z11H42K2z4H26z6H10K1z3H2G32H28z2H2K63z1K29z2K11z6K10z6K14z2P15W2X14
b15z2b12z20I76X1z1a2I45X2a1J43M3J12M6L52z8L4J56z3J15z3J51R9a2z5T43z2T3M8z8K35M4S1P2U1z5G108H88I7J28
P15S4X1R1L1K1I2A155B1J4A90J6A22z2A6z2A38z2A6z2A8z1A1z1A1z1A1z1A31z2A53z1A15z1A14z2A6z1A19z2A3z1A9z1
A47D1A23F1D6F5G2H2F1H7F5J1z1O4A7F1z2A27z1H5L8z3A11B1C1D3F2H4K3L1N1P3Q1S1X1b1z14A18D2F7H1I4J1z15A57D2
G1H1F15H1I2J1K3A48D1I1J4K1Q2z4A91D9F12A242F14A1D1A121D1F1D30F52G2H11I12K1L11P7R4S1A37D2a3z22A11z21
A139F20G1A150F10A80D8F8A20G2F2H1D1A86D2F12H2F10G8H11J1K2G2H16I1J10K3J4K10L1K19L1K1L4K24P1A4L1A4L2A28
L1A35L1A1L1A4L3A1K1A7L2A7F14A31L3A24L1A14L1H7I4M1J1M1L2F28J4F16D256F512G14H6I7J5I4J41P3J5K5P26z2P32
b1W1P34T3P12U1P8S1T25Q4T15U1H47X1H47X1I13J3K1J3I4J6K2H107K7M2z5H45z1M1z5M1z2H54M2z7H1L1z14L1H23z9H7
z1H7z1H7z1H7z1H7z1H7z1H7z1H7z1J32H24J4H2J19K1M10P7R2S5T5U1W3X11z34D26z1D89z12D214z26D12Z4A56D3F3D1A1
z1A84F2z2A6F2A94F1z5A40J1S1T1z1A94z1A16D24L3W5H16J20a2z9Z1F16A29G2z1A36K12G1F15A28G2H1A50F15A12G4A47
V1A119G4A99G2A31G1D6582W10G64A20902H22J8K8M1Q9S21T5W13X3D1165z3D18F2D16F1D12F1D3F1D1z9K48J300z20J32
L2J18M8J28P6Q1M1K88z8H23I4J5I2J107L2Q1L2M2P12L10M1P3R1T1P2Q6T2U6X2U5W4a3b2X2b1X1b1X5a3z20b1X3W2P1M2
L1J5H44W1z3K10z6I56z8J69R1z8J12z6K28Q2T2J84z11J1K29z3K78z1K11z4K2P31z1J55z9J14z2J10z2J4K28P4K67z24K5
M23z10L6z2L6z2L6z9L7z1L7z1P48Q4P2U2W4z4Q80K46z2K10z6B11172z12K23z4K49z4B2048A6702M2F59K3z2H106z38A7
z12A5z5D1A25z1A5z1A1z1A2z1A2z1A108L16X1b16A365X16A64b2A54b7X1E32A12F1G1X2F16H10z6A4J3P7Q2A21F2G2A10
z1A19z1A4z4A3F1A1z1A135z2A1z1A94F2A94z3A6z2A6z2A6z2A3z3A7z1A7z10D3C1A3G12z1G26z1G19z1G2z1G15z2G14z34
G123z5G3z4G45z3G9H75P2R2z1J12W1z3P1z47J46z130J29z3J49z15P28z4E31P1E4z9S3E27z5P43z5G30z1G1H36z4H14z42
E38G2E38G80z2G10z6R36z4R36z4P40z8P52z11P1X11z1X15z1X7z1X2z1X11z1X15z1X7z1X2z3a52z12P311z9P22z10P8z24
X6z1X42z1X9z69G6z2G1z1G44z1G2z3G1z2G1K22z1K9P63z8P9z48Q19z1Q2z5Q5I26K2z3I1J26z5J1b26z38M56z4Q2M2Q16
z2Q46H4z1H2z5H8z1H3z1H27T2z2H3z4H9T1z7H9z7K32P32z32P39z4P12z9K54z3K29z2K27z5K8P18z7P4z12P7z80K73z55
Q51z13Q51z7Q6T40z8T10z6a38z3a29z8a2z208K31z1W42z1W3z2W2z16a3b3z8b9z33b2a1Y3T40z8T42z22X26z38W28z20
U23z9L78z4L30X6z9P1K66X1z10T1z2M25z7M10z6M53z1M14T3W1z8P39z9M73Q4P1W2M10P1Q5z1P20z11P18z1P43R1Y3z62
Q7z1Q1z1Q4z1Q15z1Q11z6P59z5P10z6Q1P3z1P8z2P2z2P22z1P7z1P2z1P5z1T1P9z2P2z2P3z2Q1z6P1z5P7z2P7z3P5z11
a10z1a1z2a1z1a38z1a10z1a1z2a1z1a4z1a10z1a2z8a2z29R90W1R1z1R1T1U1W2z30P72z8P10z166P54z2P18Q20z34P69
z11P10z6R13z19M56U1X1z6M10z6a20z28Q26T1z2Q15z4Q16X7z185T60z100P83z12P1W7z2W1z2W8z1W2z1W30z1W2z2W12z9
W10z70U8z2U46z2U11z27S72z8S52U2S23T1S5z13X16P57z7Y10z86b8z88a34z14a10z6R9z1R45z1R14z10R29z3R32z2R22
z1R14z73S7z1S2z1S44z3S1z1S2z1S9z8S10z6T6z1T2z1T37z1T2z1T6z7T10z6b44z4b10z246T25z7Y17z1Y41z3Y28a1z85
W1z15U50z13U1I879P42Q1z102I99P12z1I4P1z11Q196z2636X99z13K1071Y1U9Y29z10a3995z5Q583z6841a58z1734L569
z7P31z1P10z4P2X79z1X10z6P30z2P6z10P70z10P10z1P7z1P21z5P19z432a58z198T91z5b25z2b25z44M69U6z4U1M47U9z7
M17z64R1S1U2W1z11W2b5z9R6125T5U6b8R755W483z41a1W9b22z97b115z8701X4z1X7z1X2z1L2S285X4z15Y1z29U3z2Y1
z14U4z8S396z2308P107z5P13z3P9z7P10z2P8z3932a250b3z3a436z6b23z15b17z15X46z2X23z9X116z60E246z10E39z2J1
E180Q11X2z21H70z122Y20z12T20z12G87z9I18T7z135E85z1E71z1E2z2E1z2E2z2E4z1E12z1E1z1E4G1E2z1E65z1E4z2E8
z1E7z1E28z1E4z1E5z1E1z3E7z1E338H2z2E290I2z2E50Q652z15Q5z1Q15z1104X31z6Y6z213R7z1R17z2R7z1R2z1R5z5Y62
z33Y1z112U45z3U14z2U10z4U2z320X31z17U58z5U1z464Y42z214a43z4a1z192b31z1b22z8b2z224X7z1X4z1X2z1X15z1
P197z2P16z41R75U1z4R10z4R2z785T68z76U61z194M4z1M27z1M2z1M1z2M1z1M10z1M4z1M1z1M1z6M1z4M1z1M1z1M1z1M3
z1M2z1M1z2M1z1M1z1M1z1M1z1M1z1M2z1M1z2M4z1M7z1M4z1M4z1M1z1M10z1M17z5M3z1M5z1M17z52M2z270J44z4J100z12
L15z2L14P1z1L15z1L15P22z10K11P2W3K31T1L1K1L11K1L1K1L2K1L3K1L3K5L8K1L7K1L10M2U1W3L9K1L1K2L2K1L10K4L2
K1L10R18W1z56L26K1L2z13K34L9R1z4K9z7L2z14S6z154L33P12Q3L6P1L70P1Q2L20P12L37P1L5P4Q5P12L17P7Q8L63P1L1
P1L182P1L4P2Q1L62P2M4P7Q5L24P18R1P41R1P86L5M1L16M1L3M1L1M1L1M1L1M1L3M1L6M2L4M1L1M2L4M1L12P2Q2L11P48
L70P10Q1R2S2U1W2b1z3Y1X3P13z3P4R3S2T1U1W2z3L116Y3b4Y5P85T4Y1z6U12z4X1z15P12z4P56z8P10z6P40z8P30z2W2
a10z4a2z14b9z39S12W1U3Q9R6S1R8S8R1S2R12U1R12S1T3R15S13T5U1W1T4W2X1T1U1T4Q5R13S6T11W2U6W3U2T10U6Q1T2
U8W1X1U3S23T25U84b4z8T14z2U4W1Y3U3X2z3U3W4Y2a1b1z3b1a1U6W19X4Y3W7X4Y3a1Y1W3X3a1z1b1z4b1Y2W7X3Y2a1z2
a1X8Y1a1b1z4b1X7Y2z7W147z1W55a37W10b1z1027B2E42711W7X2z32K4149X4Y1b6L222z2Q5762b12z2S7473z15Z622
z2466E542z1504B2W4939z5Y4192b4298z52100B2z65534B2z65534B2z65534B2z65534B2z65534B2z65534B2z65534B2
z65534B2z65534B2z65534B2z1E1z30E96z128G240z65038B131074"

def ages : Breaks String := Breaks.ofRuns ageRuns

def assignedBy (major minor : Nat) : Charset :=
  let known := versions.filter fun (_, high, low) => high < major || (high = major && low ≤ minor)
  ages.select fun letter => known.any (·.1 == letter)

end Weave.Text
