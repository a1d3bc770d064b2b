/-! Names of characters of Unicode 14 that are given apart: second names, and names with a number in them. -/
namespace FlowSketch.TextNameAliases

/-- Second names, as `TextName` reads them. -/
def blocks : List (Nat × List String) := [
  (0x0, ["aNULLaSTART OF HEADINGjTEXTa*ENDiRANSMISSIONcQUIRYaACKNOWLEDGEbLERTaBACKSPACEaCHARACTER TABULATION",
    "aLINE FEEDfTABULATIONaFORM FEEDaCARRIAGE RETURNaSHIFT OUTgINaDATA LINK ESCAPEbEVICE CONTROL ONEpTWOqHREEpFOUR",
    "aNEGATIVE ACKNOWLEDGEaSYNCHRONOUS IDLEaEND OF TRANSMISSION BLOCKaCANCELaEND OF MEDIUMaSUBSTITUTEaESCAPE",
    "aINFORMATION SEPARATOR FOURwTHREExWOwONEaSP"]),
  (0x7F, ["aDELETEaPADDING CHARACTERaHIGH OCTET PRESETaBREAK PERMITTED HEREa&NO BREAKaINDEXaNEXT LINE",
    "aSTART OF SELECTED AREAa?ENDaCHARACTER TABULATION SETvWITH JUSTIFICATIONaLINE TABULATION SET",
    "aPARTIAL LINE FORWARDn%BACKaREVERSE LINE FEEDaSINGLE SHIFT TWOoHREEaDEVICE CONTROL STRINGaPRIVATE USE ONEmTWO",
    "aSET TRANSMIT STATEaCANCEL CHARACTERaMESSAGE WAITINGaSTART OF GUARDED AREAa>ENDaSTART OF STRING",
    "bINGLE GRAPHIC CHARACTER INTRODUCERg^a.CONTROL SEQUENCEaSTRING TERMINATORaOPERATING SYSTEM COMMAND",
    "aPRIVACY MESSAGEaAPPLICATION PROGRAM COMMANDaNBSP"]),
  (0xAD, ["aSHY"]),
  (0x1A2, ["aLATIN CAPITAL LETTER GHAg:SMAL"]),
  (0x34F, ["aCGJ"]),
  (0x61C, ["aALM"]),
  (0x709, ["aSYRIAC SUBLINEAR COLON SKEWED LEFT"]),
  (0xCDE, ["aKANNADA LETTER LLLA"]),
  (0xE9D, ["aLAO LETTER FO FON_pAY___lRO_lLO"]),
  (0xFD0, ["aTIBETAN MARK BKA- SHOG GI MGO RGYAN"]),
  (0x11EC, ["aHANGUL JONGSEONG YESIEUNG-KIYEOKz(-SSANGrSSANGYESIEUNGrYESIEUNG-KHIEUKH"]),
  (0x180B, ["aFVS1~~aMVSaFVS4"]),
  (0x200B, ["aZWSPcNJcJaLRMaRLM"]),
  (0x202A, ["aLREaRLEaPDFaLROaRLOaNNBSP"]),
  (0x205F, ["aMMSPaWJ_____aLRIaRLIaFSIaPDI"]),
  (0x2118, ["aWEIERSTRASS ELLIPTIC FUNCTION"]),
  (0x2448, ["aMICR ON US SYMBOLf)DASH"]),
  (0x2B7A, ["aLEFTWARDS TRIANGLE-HEADED ARROW WITH DOUBLE VERTICAL STROKE_a||:RIGH"]),
  (0xA015, ["aYI SYLLABLE ITERATION MARK"]),
  (0xAA6E, ["aMYANMAR LETTER KHAMTI LLA"]),
  (0xFE00, ["aVS1~~~~~~~~c10~~~~~~________aPRESENTATION FORM FOR VERTICAL RIGHT WHITE LENTICULAR BRACKET"]),
  (0xFEFF, ["aBYTE ORDER MARK"]),
  (0x122D4, ["aCUNEIFORM SIGN NU11 TENUuOVER NU11 BUR OVER BUR"]),
  (0x16E56, ["aMEDEFAIDRIN CAPITAL LETTER HzcNG"]),
  (0x16E76, ["aMEDEFAIDRIN SMALL LETTER HzNG"]),
  (0x1B001, ["aHENTAIGANA LETTER E-1"]),
  (0x1D0C5, ["aBYZANTINE MUSICAL SYMBOL FTHORA SKLIRON CHROMA VASIS"]),
  (0xE0100, ["aVS17~~c20~~~~~~~~~c30~~~~~~~~~c40~~~~~~~~~c50~~~~~~~~~c60~~~~~~~~~c70~~~~~~~~~c80~~~~~~~~~c90~~~~~~~~",
    "~c100~~~~~~~~~d10~~~~~~~~~d20~~~~~~~~~d30~~~~~~~~~d40~~~~~~~~~d50~~~~~~~~~d60~~~~~~~~~d70~~~~~~~~~d80~~~~~~~~~",
    "d90~~~~~~~~~c200~~~~~~~~~d10~~~~~~~~~d20~~~~~~~~~d30~~~~~~~~~d40~~~~~~~~~d50~~~~~~"]),
  (0x0, ["aNULaSOHbTXa#EbOTbNQaACKaBELbSaHORIZONTAL TABULATIONaNEW LINEaVERTICAL TABULATIONaFFaCRaLOCKING-SHIFT ONE",
    "oZEROaDLEbC1~~~aNAKaSYNaETBaCANaEOMaSUBaESCaFILE SEPARATORa,GROUPa,RECORDa,UNIT"]),
  (0x7F, ["aDELaPADaHOPaBPHaNBHaINDaNELaSSAa#EaHORIZONTAL TABULATION SETwWITH JUSTIFICATIONaVERTICAL TABULATION SET",
    "aPARTIAL LINE DOWNnUPaREVERSE INDEXaSINGLE-SHIFT-2~aDCSaPRIVATE USE-1~aSTSaCCHaMWaSTART OF PROTECTED AREAa@END",
    "aSOSbGCbCIaCSIaSTaOSCaPMaAPC"]),
  (0xFEFF, ["aBOM"]),
  (0x9, ["aHTaEND OF LINEaVT__aSObI"]),
  (0x1C, ["aFSaGSaRSaUS"]),
  (0x88, ["aHTScJaVTSaPLDcUaRIaSS2~_aPU1~___aSPAa#E"]),
  (0xFEFF, ["aZWNBSP"]),
  (0x9, ["aTABaLF"]),
  (0xA, ["aNL"]),
  (0xA, ["aEOL"])]

/-- What the names of some characters begin with; a hyphen and the number of the character follow. -/
def numbered : List (String × List (Nat × Nat)) := [
  ("CJK COMPATIBILITY IDEOGRAPH",
    [(0xF900, 0xFA6D), (0xFA70, 0xFAD9), (0x2F800, 0x2FA1D)]),
  ("KHITAN SMALL SCRIPT CHARACTER",
    [(0x18B00, 0x18CD5)]),
  ("NUSHU CHARACTER",
    [(0x1B170, 0x1B2FB)])]

/-- The unified ideographs. -/
def ideographs : List (Nat × Nat) := [
  (0x3400, 0x4DBF), (0x4E00, 0x9FFF), (0x20000, 0x2A6DF), (0x2A700, 0x2B738), (0x2B740, 0x2B81D), (0x2B820, 0x2CEA1),
  (0x2CEB0, 0x2EBE0), (0x30000, 0x3134A)]

end FlowSketch.TextNameAliases
